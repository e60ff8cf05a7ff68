import ControlPlane.Device.Backend

/-! # The transport to the chip's memory

Tables are written and read by exchanges: a command, up to sixteen words of payload, and a status.
A `Channel` carries them over a device in one of two ways.

* **Through the pool** (`ChannelMode.pool`): the exchange is staged at the start of the pool, the
  command channel is pointed at it and started, and the completion bit is awaited.
* **Through the driver** (`ChannelMode.driver`): the device is handed the words.

`Bus` is what the tables need from a transport: words go to an address or come from it, and either
may fail.  Everything above the transport is written for any `Bus`. -/

namespace ControlPlane

/-- Something that writes and reads words of a chip's memory. -/
class Bus (δ : Type) where
  write (address : Nat) (data : List UInt32) : DeviceOperation δ Unit
  read (address words : Nat) : DeviceOperation δ (List UInt32)
  /-- Whether the board's chip can be read. -/
  readable : δ → Bool

inductive ChannelMode where
  | pool
  | driver
  deriving DecidableEq

namespace ChannelMode

def text : ChannelMode → String
  | pool => "dma"
  | driver => "kernel"

def parse? (s : String) : Option ChannelMode := [pool, driver].find? (·.text == s)

end ChannelMode

structure ChannelSettings where
  mode : ChannelMode
  timeoutMs : Nat
  pollUs : Nat
  readable : Bool

namespace ChannelSettings

def defaults : ChannelSettings := ⟨.pool, 500, 1000, true⟩

end ChannelSettings

structure Channel where
  device : Device
  settings : ChannelSettings
  /-- Bus address of the staged exchange, if exchanges go through the pool. -/
  staging : Option Nat

namespace Channel

/-- Bytes at the start of the pool that are kept for the staged exchange. -/
def reservedBytes : Nat := 256

/-- An operation of the device. -/
def onDevice {α : Type} (op : DeviceOperation Device α) : DeviceOperation Channel α :=
  Operation.focus device (fun ch d => { ch with device := d }) op

/-- Prepares a device for exchanges. -/
def connect (settings : ChannelSettings) : DeviceOperation Device (Option Nat) :=
  match settings.mode with
  | .driver => pure none
  | .pool => do
    let info ← Device.dmaInfo
    Operation.require (reservedBytes ≤ info.size)
      (.uninitialized s!"dma pool of {info.size} bytes is too small")
    let _ ← Device.mapPool
    return some info.base

/-- Opens a transport over a device. -/
def open? (settings : ChannelSettings) (device : Device) : Except DeviceError Channel :=
  match connect settings device with
  | .ok staging d => .ok ⟨d, settings, staging⟩
  | .error e _ => .error e

/-! ### Transfer channels -/

/-- Clears a channel's completion bit and no other. -/
def clearDone (channel : Nat) : DeviceOperation Channel Unit := do
  let status ← onDevice (Device.readRegister Registers.dmaStatus)
  onDevice (Device.writeRegister Registers.dmaStatus (status &&& ~~~ Registers.dmaDone channel))

/-- Waits for a channel's completion bit.  Nothing changes while it is awaited, so the first look
at it decides. -/
def awaitDone (channel : Nat) (operation : String) : DeviceOperation Channel Unit := do
  let status ← onDevice (Device.readRegister Registers.dmaStatus)
  let ch ← get
  Operation.require (Registers.isDone status channel)
    (.timeout operation ch.settings.timeoutMs)

/-- Points a channel at a bus address and starts it. -/
def launch (channel bus : Nat) : DeviceOperation Channel Unit := do
  onDevice (Device.writeRegister (Registers.dmaDescriptor channel) (UInt32.ofNat bus))
  onDevice (Device.writeRegister (Registers.dmaControl channel) Registers.start)

def halt (channel : Nat) : DeviceOperation Channel Unit :=
  onDevice (Device.writeRegister (Registers.dmaControl channel) 0)

/-! ### Exchanges -/

/-- A list of words with zeros added up to a length. -/
def padded (words : List UInt32) (length : Nat) : List UInt32 :=
  words ++ List.replicate (length - words.length) 0

/-- The words of a staged exchange, with a status that no command answers. -/
def staged (command payload : List UInt32) : List UInt32 :=
  padded command commandWordsMax ++ padded payload payloadWordsMax ++ [0xffffffff]

/-- An exchange through the pool, whose first byte has bus address `bus`. -/
def exchangeStaged (bus : Nat) (command payload : List UInt32) :
    DeviceOperation Channel (UInt32 × List UInt32) := do
  onDevice (Device.writePoolWords 0 (staged command payload))
  clearDone Registers.commandChannel
  launch Registers.commandChannel bus
  awaitDone Registers.commandChannel "schan"
  halt Registers.commandChannel
  let words ← onDevice (Device.readPoolWords 0 stagedWords)
  let status := words[commandWordsMax + payloadWordsMax]?.getD 0
  return (status, (words.drop commandWordsMax).take payload.length)

/-- One exchange with a given payload, by the channel's way of carrying them. -/
def exchange (command payload : List UInt32) : DeviceOperation Channel (UInt32 × List UInt32) :=
  fun ch =>
    match ch.settings.mode, ch.staging with
    | .pool, some bus => exchangeStaged bus command payload ch
    | _, _ => onDevice (Device.runCommand command payload) ch

/-- Runs an operation at an address of the chip's memory.  `data` is sent along, and `answer` words
of payload are taken from what comes back. -/
def transfer (op : Opcode) (address : Nat) (data : List UInt32) (answer : Nat) :
    DeviceOperation Channel (List UInt32) := do
  Operation.require (data.length ≤ payloadWordsMax ∧ answer ≤ payloadWordsMax)
    (.misuse .exchangeLength)
  let words :=
    match op with
    | .write => data.length
    | .read => answer
  let (status, payload) ← exchange (Command.encode op address words) (padded data answer)
  Operation.require (status = 0) (.commandFailed status.toNat)
  return payload.take answer

def writeMemory (address : Nat) (data : List UInt32) : DeviceOperation Channel Unit := do
  let _ ← transfer .write address data 0

def readMemory (address words : Nat) : DeviceOperation Channel (List UInt32) := do
  let ch ← get
  Operation.require ch.settings.readable .unsupported
  transfer .read address [] words

instance : Bus Channel where
  write := writeMemory
  read := readMemory
  readable ch := ch.settings.readable

end Channel

end ControlPlane
