import ControlPlane.Board
import ControlPlane.Config.Backend
import ControlPlane.Device.Channel
import ControlPlane.Log

/-! # Settings

All that can be set about the program, with the values that hold where nothing is said.  Settings
are read from a table of named entries by `Settings.ofEntries?`; an entry that is no setting, or
whose value has another type or is out of range, makes the whole table unreadable.

Settings that have been read may still be of no use together: `Settings.check` finds the first
reason for which they cannot be run with. -/

namespace ControlPlane

structure Settings where
  /-- The file that the log goes to, in place of standard output. -/
  logFile : Option String
  logFormat : LogFormat
  device : DeviceSettings
  channel : ChannelSettings
  board : Board
  linkPollMs : Nat
  speedsFile : Option String
  scriptFile : Option String
  /-- Whether frames are sent and received. -/
  packets : Bool
  /-- Whether each port gets an interface that carries its frames. -/
  taps : Bool

namespace Settings

def defaults : Settings where
  logFile := none
  logFormat := .json
  device := .defaults
  channel := .defaults
  board := ⟨portCount, Board.defaultStem, Board.defaultMacBase⟩
  linkPollMs := 200
  speedsFile := none
  scriptFile := none
  packets := false
  taps := false

/-! ### As data -/

/-- The names of all settings. -/
def names : List String :=
  ["log_file", "log_format", "asic_config", "schan_mode", "schan_timeout_ms", "schan_poll_us",
    "schan_read_supported", "port_prefix", "num_ports", "mac_base", "link_poll_ms", "port_config",
    "soc_script", "pktio", "tap"]

def formatOfData? (d : Data) : Option LogFormat :=
  (d.choice? Data.isEmpty).bind LogFormat.ofText?

def modeOfData? (d : Data) : Option ChannelMode :=
  (d.choice? Data.isEmpty).bind ChannelMode.parse?

def macOfData? (d : Data) : Option MacAddr := d.text?.bind fun s => (MacAddr.parse s).toOption

/-- A number of 64 bits. -/
def wordOfData? : Data → Option Nat := Data.natural? (2 ^ 64)

def channelOfEntries? (entries : List (String × Data)) : Option ChannelSettings := do
  let mode ← Data.orDefault entries "schan_mode" defaults.channel.mode modeOfData?
  let timeoutMs ← Data.orDefault entries "schan_timeout_ms" defaults.channel.timeoutMs wordOfData?
  let pollUs ← Data.orDefault entries "schan_poll_us" defaults.channel.pollUs wordOfData?
  let readable ←
    Data.orDefault entries "schan_read_supported" defaults.channel.readable Data.boolean?
  return ⟨mode, timeoutMs, pollUs, readable⟩

def boardOfEntries? (entries : List (String × Data)) : Option Board := do
  let ports ← Data.orDefault entries "num_ports" defaults.board.ports (Data.natural? 256)
  let stem ← Data.orDefault entries "port_prefix" defaults.board.stem Data.text?
  let macBase ← Data.orDefault entries "mac_base" defaults.board.macBase macOfData?
  return ⟨ports, stem, macBase⟩

/-- The text of an entry that may be left out. -/
def pathOfEntries? (entries : List (String × Data)) (name : String) : Option (Option String) :=
  Data.orDefault entries name none fun d => d.text?.map some

/-- Reads settings from a table of entries. -/
def ofEntries? (entries : List (String × Data)) : Option Settings := do
  guard (Data.isWithin names entries)
  let logFile ← pathOfEntries? entries "log_file"
  let logFormat ← Data.orDefault entries "log_format" defaults.logFormat formatOfData?
  let device ← Data.orDefault entries "asic_config" defaults.device DeviceSettings.ofData?
  let channel ← channelOfEntries? entries
  let board ← boardOfEntries? entries
  let linkPollMs ← Data.orDefault entries "link_poll_ms" defaults.linkPollMs wordOfData?
  let speedsFile ← pathOfEntries? entries "port_config"
  let scriptFile ← pathOfEntries? entries "soc_script"
  let packets ← Data.orDefault entries "pktio" defaults.packets Data.boolean?
  let taps ← Data.orDefault entries "tap" defaults.taps Data.boolean?
  return ⟨logFile, logFormat, device, channel, board, linkPollMs, speedsFile, scriptFile, packets,
    taps⟩

/-! ### Settings that can be run with -/

/-- Why settings cannot be run with, if there is a reason. -/
def fault? (s : Settings) : Option SettingsFault :=
  if s.board.ports = 0 ∨ portCount < s.board.ports then
    some (.portCount s.board.ports)
  else if s.board.stem.isEmpty then
    some .emptyStem
  else if s.taps && !s.packets then
    some .tapsWithoutPackets
  else if s.channel.timeoutMs = 0 ∨ s.linkPollMs = 0 then
    some .zeroInterval
  else
    none

/-- The settings, unless they cannot be run with. -/
def check (s : Settings) : Except Error Settings :=
  match s.fault? with
  | none => .ok s
  | some fault => .error (.invalid (.settings fault))

end Settings

end ControlPlane
