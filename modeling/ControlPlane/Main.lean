import ControlPlane.Daemon

/-! # The program's outer layer

Reads the files that the command line and the settings name, starts the program with them, and then
follows kernel events until its input ends.  Events come on standard input as datagrams in
hexadecimal digits, one on each line. -/

namespace ControlPlane

/-- An operating system failure as it is reported here. -/
def osError : IO.Error → OsError
  | .noFileOrDirectory _ _ _ => .noEntry
  | e => .described (toString e)

/-- What the system answers to a request. -/
def answerOf {α : Type} (request : IO α) : IO (Except OsError α) := do
  try
    return .ok (← request)
  catch e =>
    return .error (osError e)

/-- Reads files ahead. -/
def readAhead (paths : List (Option String)) : IO (List (String × Except OsError String)) :=
  (paths.filterMap id).mapM fun (path : String) => do
    return (path, ← answerOf (IO.FS.readFile path))

/-- Opens files ahead. -/
def openAhead (mode : IO.FS.Mode) (paths : List (Option String)) :
    IO (List (String × Except OsError Unit)) :=
  (paths.filterMap id).mapM fun (path : String) => do
    let handle ← answerOf (IO.FS.Handle.mk path mode)
    return (path, handle.map fun _ => ())

/-- The answer found ahead. -/
def ahead {α : Type} (answers : List (String × Except OsError α)) (path : String) :
    Except OsError α :=
  match answers.find? fun answer => answer.1 == path with
  | some (_, answer) => answer
  | none => .error .noEntry

/-- The path of the node that settings choose. -/
def nodePath : DeviceSettings → Option String
  | .node path => some path
  | _ => none

/-- The answers that a run with these options will need. -/
def hostFor (o : Options) : IO Host := do
  let configured ← readAhead [o.settingsFile, o.faultsFile]
  match Settings.load (ahead configured) o with
  | .error _ => return ⟨ahead configured, ahead [], ahead [], .error .noEntry, .ok []⟩
  | .ok s =>
    let files ← readAhead [s.scriptFile, s.speedsFile]
    let logs ← openAhead .append [s.logFile]
    let nodes ← openAhead .readWrite [nodePath s.device]
    return ⟨ahead (configured ++ files), ahead logs, ahead nodes, .error .noEntry, .ok []⟩

/-- The events of a line of input. -/
def eventsOfLine (line : String) : List Event :=
  match Text.bytesOfHex? (Text.trim line.toList) with
  | some bytes => Netlink.Datagram.events bytes
  | none => []

/-- Follows events until the input ends. -/
partial def followInput (input : IO.FS.Stream) (agent : Agent) : IO Unit := do
  let line ← input.getLine
  if line.isEmpty then
    return
  else
    followInput input ((agent.follow (eventsOfLine line)).getLast?.getD agent)

end ControlPlane

open ControlPlane in
/-- Runs the program. -/
def main (words : List String) : IO UInt32 := do
  let options :=
    match Options.parse words with
    | .ok (.run options) => options
    | _ => .empty
  let host ← hostFor options
  match Program.start host words with
  | .ok agent =>
    followInput (← IO.getStdin) agent
    return 0
  | .error exit =>
    match exit.report? with
    | some text => IO.eprintln text
    | none => pure ()
    return exit.status.toUInt32
