import ControlPlane.Device.Channel
import ControlPlane.Log
import ControlPlane.MacAddr
import ControlPlane.Text.Numeral

/-! # The command line

A command line is a list of options, each followed by a value, and of flags, which have none.

* **Values.**  The value of a long option is the next word, or what follows an equals sign in the
  same word.  The value of a short option may also follow its letter at once.  A word that begins
  with a dash and goes on is never the next word of an option.
* **Once.**  No option and no flag is given twice, and there are no other words.
* **Help.**  Asking for help or for the version ends the reading: nothing after it is looked at, and
  what came before it need only have been readable word by word.

`Options.parse` reads a command line; `Options.scan` splits it into what was asked for, and
`Options.collect` looks at the values. -/

namespace ControlPlane

structure Options where
  settingsFile : Option String
  logFile : Option String
  logFormat : Option LogFormat
  faultsFile : Option String
  devicePath : Option String
  channelMode : Option ChannelMode
  stem : Option String
  ports : Option Nat
  macBase : Option MacAddr
  speedsFile : Option String
  scriptFile : Option String
  packets : Bool
  taps : Bool

/-- Why a command line cannot be read. -/
inductive UsageError where
  | unexpected (word : String)
  | missingValue (option : String)
  | unexpectedValue (flag : String)
  | repeated (name : String)
  | badValue (option value : String)
  deriving DecidableEq

namespace UsageError

def message : UsageError → String
  | unexpected word => "unexpected argument " ++ Text.quoted word
  | missingValue option => s!"--{option} needs a value"
  | unexpectedValue flag => s!"--{flag} takes no value"
  | repeated name => s!"--{name} may be given only once"
  | badValue option value => s!"--{option} cannot be " ++ Text.quoted value

end UsageError

/-- An option, which has a value. -/
inductive OptionName where
  | settingsFile
  | logFile
  | logFormat
  | faultsFile
  | devicePath
  | channelMode
  | stem
  | ports
  | macBase
  | speedsFile
  | scriptFile
  deriving DecidableEq

namespace OptionName

def all : List OptionName :=
  [settingsFile, logFile, logFormat, faultsFile, devicePath, channelMode, stem, ports, macBase,
    speedsFile, scriptFile]

def long : OptionName → String
  | settingsFile => "config"
  | logFile => "log-file"
  | logFormat => "log-format"
  | faultsFile => "chaos-config"
  | devicePath => "device-path"
  | channelMode => "schan-mode"
  | stem => "port-prefix"
  | ports => "num-ports"
  | macBase => "mac-base"
  | speedsFile => "port-config"
  | scriptFile => "soc-script"

def short? : OptionName → Option Char
  | settingsFile => some 'c'
  | logFormat => some 'l'
  | _ => none

end OptionName

inductive FlagName where
  | packets
  | taps
  deriving DecidableEq

namespace FlagName

def all : List FlagName := [packets, taps]

def long : FlagName → String
  | packets => "pktio"
  | taps => "tap"

end FlagName

namespace Options

/-- What one or two words of a command line ask for. -/
inductive Item where
  | option (name : OptionName) (value : String)
  | flag (name : FlagName)
  deriving DecidableEq

/-- What a command line asks for. -/
inductive Request (α : Type) where
  | run (what : α)
  | help

/-! ### Words -/

/-- Whether a word can only begin an option or a flag. -/
def isDashed : List Char → Bool
  | '-' :: _ :: _ => true
  | _ => false

/-- Cuts a word at its first equals sign, which goes with the second part. -/
def cutAtEquals (word : List Char) : List Char × List Char :=
  (word.takeWhile (· != '='), word.dropWhile (· != '='))

/-- A value without the equals signs in front of it. -/
def valueOf (cs : List Char) : String := String.ofList (cs.dropWhile (· == '='))

/-- What a dashed word is. -/
inductive Dashed where
  /-- An option whose value is in the same word. -/
  | hasValue (name : OptionName) (value : String)
  /-- An option whose value is the next word. -/
  | needsValue (name : OptionName)
  | flag (name : FlagName)
  | help

/-- Reads a long option or flag, without its dashes. -/
def long (word : String) (body : List Char) : Except UsageError Dashed :=
  let (name, value) := cutAtEquals body
  let name := String.ofList name
  match OptionName.all.find? (·.long == name), FlagName.all.find? (·.long == name) with
  | some option, _ =>
    .ok (if value.isEmpty then .needsValue option else .hasValue option (valueOf value))
  | none, some flag => if value.isEmpty then .ok (.flag flag) else .error (.unexpectedValue name)
  | none, none => if name ∈ ["help", "version"] then .ok .help else .error (.unexpected word)

/-- Reads a short option: its letter, and what follows it in the word. -/
def short (word : String) (letter : Char) (rest : List Char) : Except UsageError Dashed :=
  match OptionName.all.find? (·.short? == some letter) with
  | some option =>
    .ok (if rest.isEmpty then .needsValue option else .hasValue option (valueOf rest))
  | none => if letter ∈ ['h', 'V'] then .ok .help else .error (.unexpected word)

/-- Reads a dashed word. -/
def dashed (word : String) : Except UsageError Dashed :=
  match word.toList with
  | '-' :: '-' :: rest => long word (rest.dropWhile (· == '-'))
  | '-' :: letter :: rest => short word letter rest
  | _ => .error (.unexpected word)

/-! ### Items -/

/-- Adds an item in front of those of a request. -/
def Request.cons (item : Item) : Request (List Item) → Request (List Item)
  | .run items => .run (item :: items)
  | .help => .help

/-- Splits words into items. -/
def scan : List String → Except UsageError (Request (List Item))
  | [] => .ok (.run [])
  | "--" :: rest =>
    match rest with
    | [] => .ok (.run [])
    | word :: _ => .error (.unexpected word)
  | word :: rest =>
    if isDashed word.toList then do
      match ← dashed word, rest with
      | .help, _ => return .help
      | .flag name, rest => return (← scan rest).cons (.flag name)
      | .hasValue name value, rest => return (← scan rest).cons (.option name value)
      | .needsValue name, [] => throw (.missingValue name.long)
      | .needsValue name, value :: rest =>
        if isDashed value.toList then
          match ← scan (value :: rest) with
          | .help => return .help
          | .run _ => throw (.missingValue name.long)
        else
          return (← scan rest).cons (.option name value)
    else
      throw (.unexpected word)

/-! ### Values -/

def empty : Options where
  settingsFile := none
  logFile := none
  logFormat := none
  faultsFile := none
  devicePath := none
  channelMode := none
  stem := none
  ports := none
  macBase := none
  speedsFile := none
  scriptFile := none
  packets := false
  taps := false

/-- Enters a value that can be read. -/
def put? (o : Options) (value : String) : OptionName → Option Options
  | .settingsFile => some { o with settingsFile := some value }
  | .logFile => some { o with logFile := some value }
  | .logFormat =>
    (LogFormat.parse value).toOption.map fun format => { o with logFormat := some format }
  | .faultsFile => some { o with faultsFile := some value }
  | .devicePath => some { o with devicePath := some value }
  | .channelMode => (ChannelMode.parse? value).map fun mode => { o with channelMode := some mode }
  | .stem => some { o with stem := some value }
  | .ports => (Text.numeral? 10 256 value.toList).map fun n => { o with ports := some n }
  | .macBase => (MacAddr.parse value).toOption.map fun mac => { o with macBase := some mac }
  | .speedsFile => some { o with speedsFile := some value }
  | .scriptFile => some { o with scriptFile := some value }

/-- Enters an item. -/
def add (o : Options) : Item → Except UsageError Options
  | .option name value =>
    match o.put? value name with
    | some o => .ok o
    | none => .error (.badValue name.long value)
  | .flag .packets => .ok { o with packets := true }
  | .flag .taps => .ok { o with taps := true }

/-- The name that an item may not be repeated under. -/
def Item.name : Item → String
  | option name _ => name.long
  | flag name => name.long

/-- The first name that is given again later. -/
def repeated? : List String → Option String
  | [] => none
  | name :: names => if name ∈ names then some name else repeated? names

/-- The options that items give. -/
def collect (items : List Item) : Except UsageError Options :=
  match repeated? (items.map Item.name) with
  | some name => .error (.repeated name)
  | none => items.foldlM add empty

/-- Reads a command line. -/
def parse (words : List String) : Except UsageError (Request Options) := do
  match ← scan words with
  | .help => return .help
  | .run items => return .run (← collect items)

end Options

end ControlPlane
