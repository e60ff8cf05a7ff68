import ControlPlane.Switch

/-! # Bring-up

A board is brought up by a script that sets registers, and a file that gives ports their speeds.

* **Script.**  Each line is `setreg <offset> <value>`, `getreg <offset>` or `rcload <path>`, or
  blank; `#` begins a comment.  Numbers are decimal, or hexadecimal after `0x`.  A script is read
  whole before any of it is run, and `rcload` lines are not followed.
* **Speeds.**  Each line is `<port>=<speed>`, or blank; `#` begins a comment.  A speed that a port
  cannot run at is passed over. -/

namespace ControlPlane

/-- A list of lines, each with its number from `n` on. -/
def numbered (n : Nat) : List (List Char) → List (Nat × List Char)
  | [] => []
  | line :: lines => (n, line) :: numbered (n + 1) lines

/-- Reads what is on each line, if anything, up to the first line that cannot be read. -/
def readLines {ε α : Type} (read : List Char → Except ε (Option α)) :
    List (Nat × List Char) → Except (Nat × ε) (List (Nat × α))
  | [] => .ok []
  | (n, line) :: lines =>
    match read line with
    | .error e => .error (n, e)
    | .ok found =>
      match readLines read lines with
      | .error e => .error e
      | .ok rest =>
        match found with
        | some a => .ok ((n, a) :: rest)
        | none => .ok rest

/-! ### Scripts -/

inductive ScriptCommand where
  | set (offset : Nat) (value : UInt32)
  | get (offset : Nat)
  /-- Names another script. -/
  | load
  deriving DecidableEq

namespace ScriptCommand

/-- A number of 32 bits. -/
def number (word : List Char) : Except ScriptFault Nat :=
  let value? :=
    match word with
    | '0' :: 'x' :: digits => Text.numeral? 16 (2 ^ 32) digits
    | '0' :: 'X' :: digits => Text.numeral? 16 (2 ^ 32) digits
    | digits => Text.numeral? 10 (2 ^ 32) digits
  match value? with
  | some n => .ok n
  | none => .error (.badNumber (String.ofList word))

/-- Reads the words of a line. -/
def ofWords : List String → Except ScriptFault (Option ScriptCommand)
  | [] => .ok none
  | ["setreg", offset, value] => do
    let offset ← number offset.toList
    let value ← number value.toList
    return some (set offset (UInt32.ofNat value))
  | ["getreg", offset] => do
    let offset ← number offset.toList
    return some (get offset)
  | ["rcload", _] => .ok (some load)
  | command :: _ =>
    if command ∈ ["setreg", "getreg", "rcload"] then
      .error (.wrongArity command)
    else
      .error (.unknownCommand command)

def ofLine (line : List Char) : Except ScriptFault (Option ScriptCommand) :=
  ofWords ((Text.words (Text.uncommented line)).map String.ofList)

end ScriptCommand

namespace Script

/-- The commands of a script with the numbers of their lines. -/
def parse (text : String) : Except Error (List (Nat × ScriptCommand)) :=
  match readLines ScriptCommand.ofLine (numbered 1 (Text.lines text.toList)) with
  | .ok commands => .ok commands
  | .error (line, fault) => .error (.invalid (.script line fault))

/-- Runs commands in order; the answer holds the registers read and their values. -/
def runAll : List (Nat × ScriptCommand) → Operation Channel (List (Nat × UInt32))
  | [] => pure []
  | (_, .set offset value) :: rest => do
    (Channel.onDevice (Device.writeRegister offset value)).lift
    runAll rest
  | (_, .get offset) :: rest => do
    let value ← (Channel.onDevice (Device.readRegister offset)).lift
    let values ← runAll rest
    return (offset, value) :: values
  | (_, .load) :: rest => runAll rest

/-- Runs a script. -/
def run (text : String) : Operation Channel (List (Nat × UInt32)) := fun ch =>
  match parse text with
  | .ok commands => runAll commands ch
  | .error e => .error e ch

end Script

/-! ### Speeds -/

namespace PortSpeeds

/-- Cuts a line at its first equals sign. -/
def cut? : List Char → Option (List Char × List Char)
  | [] => none
  | '=' :: rest => some ([], rest)
  | c :: rest => (cut? rest).map fun (before, after) => (c :: before, after)

def ofLine (line : List Char) : Except SpeedsFault (Option (PortId × PortSpeed)) :=
  let line := Text.trim (Text.uncommented line)
  if line.isEmpty then
    .ok none
  else
    match cut? line with
    | none => .error .noEquals
    | some (port, speed) =>
      match PortId.parse (String.ofList port) with
      | .error e => .error (.badPort e)
      | .ok port =>
        match PortSpeed.parse (String.ofList speed) with
        | .error e => .error (.badSpeed e)
        | .ok speed => .ok (some (port, speed))

/-- The ports and speeds that a file lists. -/
def parse (text : String) : Except Error (List (PortId × PortSpeed)) :=
  match readLines ofLine (numbered 1 (Text.lines text.toList)) with
  | .ok speeds => .ok (speeds.map Prod.snd)
  | .error (line, fault) => .error (.invalid (.speeds line fault))

/-- Sets speeds in order, passing over those that a port cannot run at. -/
def apply {δ : Type} [Bus δ] (sw : Switch δ) (speeds : List (PortId × PortSpeed)) : Switch δ :=
  speeds.foldl (fun sw (port, speed) => Operation.after (Switch.setPortSpeed port speed) sw) sw

end PortSpeeds

/-! ### Starting up -/

/-- What a switch is brought up with, as the system answers when it is read. -/
structure BringupFiles where
  script : Option (String × Except OsError String)
  speeds : Option (String × Except OsError String)

/-- Why a switch could not be brought up. -/
inductive StartFailure where
  | readingScript (path : String) (cause : OsError)
  | runningScript (path : String) (cause : Error)
  | readingSpeeds (path : String) (cause : OsError)
  | parsingSpeeds (path : String) (cause : Error)
  | trap (cause : Error)
  | listener (cause : Error)
  | poller (cause : Error)
  | receiver (cause : Error)
  | taps (cause : Error)

namespace StartFailure

/-- The control plane's failure behind it, unless a file could not be read. -/
def cause? : StartFailure → Option Error
  | readingScript _ _ => none
  | readingSpeeds _ _ => none
  | runningScript _ e => some e
  | parsingSpeeds _ e => some e
  | trap e => some e
  | listener e => some e
  | poller e => some e
  | receiver e => some e
  | taps e => some e

/-- What was being done, and the failure behind it. -/
def messages : StartFailure → List String
  | readingScript path e => ["reading soc script " ++ path, e.message]
  | runningScript path e => ["running soc script " ++ path, e.message]
  | readingSpeeds path e => ["reading port config " ++ path, e.message]
  | parsingSpeeds path e => ["parsing port config " ++ path, e.message]
  | trap e => ["failed to install bpdu trap", e.message]
  | listener e => ["failed to start netlink listener", e.message]
  | poller e => [e.message]
  | receiver e => ["failed to start packet rx", e.message]
  | taps e => ["failed to create port interfaces", e.message]

end StartFailure

namespace Switch

/-- Runs the script, if there is one. -/
def runScript (files : BringupFiles) : EStateM StartFailure (Switch Channel) Unit :=
  match files.script with
  | none => pure ()
  | some (path, .error e) => throw (.readingScript path e)
  | some (path, .ok text) => do
    let _ ← Operation.mapError (.runningScript path) (onBus (Script.run text))

/-- Sets the speeds, if there is a file of them. -/
def applySpeeds (files : BringupFiles) : EStateM StartFailure (Switch Channel) Unit := fun sw =>
  match files.speeds with
  | none => .ok () sw
  | some (path, .error e) => .error (.readingSpeeds path e) sw
  | some (path, .ok text) =>
    match PortSpeeds.parse text with
    | .error e => .error (.parsingSpeeds path e) sw
    | .ok speeds => .ok () (PortSpeeds.apply sw speeds)

/-- Brings a switch up: script, speeds, and then the trap for the spanning tree protocol. -/
def bringUp (files : BringupFiles) : EStateM StartFailure (Switch Channel) Unit := do
  runScript files
  applySpeeds files
  let _ ← Operation.mapError .trap (addTrap Traps.bridgeProtocol)

end Switch

end ControlPlane
