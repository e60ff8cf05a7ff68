import ControlPlane.Config.Options
import ControlPlane.Config.Settings
import ControlPlane.Config.Toml

/-! # The settings of a run

The settings of a run are the defaults, changed by the settings file if there is one, and then by
the options of the command line.  A file of faults, or else a device path, takes the place of the
device that the settings file chose; a device path wins over a file of faults, which must be
readable all the same. -/

namespace ControlPlane.Settings

/-- What the system answers when a file is read. -/
abbrev Reader := String → Except OsError String

/-- Reads a file as a table of entries, or fails with `malformed`. -/
def readEntries {α : Type} (read : Reader) (path : String) (malformed : Error)
    (decode : List (String × Data) → Option α) : Except Error α :=
  match read path with
  | .error e => .error (.io e)
  | .ok text =>
    match (Toml.parse? text).bind decode with
    | some a => .ok a
    | none => .error malformed

/-- The settings of a file. -/
def ofFile (read : Reader) (path : String) : Except Error Settings :=
  readEntries read path (.invalid (.settings (.malformed path))) ofEntries?

/-- The faulty device that a file describes. -/
def faultsOfFile (read : Reader) (path : String) : Except Error DeviceSettings :=
  readEntries read path (.other (.malformedFaults path)) fun entries =>
    (DeviceSettings.faultsOfData? (.table entries)).map fun (pool, rates) => .faulty pool rates

/-- The device that options choose, or else the one that settings did. -/
def chosenDevice (read : Reader) (o : Options) (s : Settings) : Except Error DeviceSettings := do
  let device ←
    match o.faultsFile with
    | some path => faultsOfFile read path
    | none => pure s.device
  match o.devicePath with
  | some path => return .node path
  | none => return device

/-- Settings changed by all options but those that choose a device. -/
def override (o : Options) (s : Settings) : Settings :=
  { s with
    logFile := o.logFile <|> s.logFile
    logFormat := o.logFormat.getD s.logFormat
    channel := { s.channel with mode := o.channelMode.getD s.channel.mode }
    board :=
      { ports := o.ports.getD s.board.ports
        stem := o.stem.getD s.board.stem
        macBase := o.macBase.getD s.board.macBase }
    speedsFile := o.speedsFile <|> s.speedsFile
    scriptFile := o.scriptFile <|> s.scriptFile
    packets := o.packets || s.packets
    taps := o.taps || s.taps }

/-- The settings that a command line asks for. -/
def load (read : Reader) (o : Options) : Except Error Settings := do
  let s ←
    match o.settingsFile with
    | some path => ofFile read path
    | none => pure defaults
  let device ← chosenDevice read o s
  check (override o { s with device := device })

end ControlPlane.Settings
