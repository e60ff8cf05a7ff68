import ControlPlane.Device.Dma
import ControlPlane.Device.Registers
import ControlPlane.Operation

/-! # The emulated chip

A chip that runs in memory.  It has registers, a pool of bytes shared with the processor, and
tables in a memory of words keyed by byte address.

* **Commands.**  `execute` runs one command against the memory.  `runStaged` takes it from the
  pool, as the hardware does when its channel is started, and puts the payload and status back.
* **Frames.**  `sendStaged` takes a frame from the pool and adds it to the list of those sent.
* **Faults.**  Writes that touch a range in `failing` are refused with a status of their own, and
  a stalled chip does its work without ever reporting completion. -/

namespace ControlPlane

/-- A frame and the number of the port it goes out of or came in by. -/
structure Frame where
  port : UInt8
  data : List UInt8
  deriving DecidableEq

/-- The addresses of `words` consecutive words from a byte address on; addresses wrap around at
32 bits. -/
def wordAddresses (address : Nat) : Nat → List Nat
  | 0 => []
  | words + 1 => address % 2 ^ 32 :: wordAddresses (address + 4) words

/-- The writes that put words at consecutive addresses. -/
def wordWrites (address : Nat) (data : List UInt32) : List (Nat × UInt32) :=
  (wordAddresses address data.length).zip data

/-- The size of a staged exchange in words: the command, the payload and the status. -/
def stagedWords : Nat := commandWordsMax + payloadWordsMax + 1

structure Chip where
  /-- Bus address of the first byte of the pool. -/
  poolBase : Nat
  pool : DmaRegion
  registers : Memory UInt32
  memory : Memory UInt32
  stalled : Bool
  /-- Byte ranges, end excluded, whose writes fail. -/
  failing : List (Nat × Nat)
  sent : List Frame

namespace Chip

/-- A chip with a clear pool of the given place and size. -/
def fresh (poolBase poolSize : Nat) : Chip :=
  ⟨poolBase, .clear poolSize, .clear, .clear, false, [], []⟩

instance : Inhabited Chip := ⟨fresh 0 0⟩

/-- The status of a write that was made to fail. -/
def refusedStatus : UInt32 := 0x5a

/-- The status of a command that cannot be read. -/
def malformedStatus : UInt32 := 1

def readMemory (c : Chip) (address words : Nat) : List UInt32 :=
  c.memory.readAll (wordAddresses address words)

def writeMemory (c : Chip) (address : Nat) (data : List UInt32) : Chip :=
  { c with memory := c.memory.writeAll (wordWrites address data) }

/-- Whether a write of `words` words at `address` touches a failing range. -/
def refuses (c : Chip) (address words : Nat) : Bool :=
  let stop := (address + 4 * words) % 2 ^ 32
  c.failing.any fun (first, last) => address < last && first < stop

/-- The result of a command: its status, the payload as the chip left it, and the chip. -/
structure Execution where
  status : UInt32
  payload : List UInt32
  chip : Chip

/-- Runs one command.  The payload is what is written, and takes what is read. -/
def execute (c : Chip) (command payload : List UInt32) : Execution :=
  match command.head?.bind Command.header?, command[1]? with
  | some (op, count), some address =>
    let words := min count payload.length
    match op with
    | .write =>
      if c.refuses address.toNat words then
        ⟨refusedStatus, payload, c⟩
      else
        ⟨0, payload, c.writeMemory address.toNat (payload.take words)⟩
    | .read => ⟨0, c.readMemory address.toNat words ++ payload.drop words, c⟩
  | _, _ => ⟨malformedStatus, payload, c⟩

/-! ### Transfers through the pool -/

/-- The offset of a bus address in the pool. -/
def poolOffset (c : Chip) (bus : Nat) : Except Misuse Nat :=
  if c.poolBase ≤ bus ∧ bus - c.poolBase < c.pool.size then
    .ok (bus - c.poolBase)
  else
    .error (.outsidePool bus)

/-- Reports the completion of a channel, unless the chip is stalled. -/
def complete (c : Chip) (channel : Nat) : Chip :=
  if c.stalled then
    c
  else
    let status := c.registers.read Registers.dmaStatus ||| Registers.dmaDone channel
    { c with registers := c.registers.write Registers.dmaStatus status }

/-- Runs the exchange that is staged where the command channel's descriptor points. -/
def runStaged (c : Chip) : Except Misuse Chip := do
  let bus := (c.registers.read (Registers.dmaDescriptor Registers.commandChannel)).toNat
  let offset ← c.poolOffset bus
  let staged ← c.pool.readWords offset stagedWords
  let done := c.execute (staged.take commandWordsMax)
    ((staged.drop commandWordsMax).take payloadWordsMax)
  let pool ← done.chip.pool.writeWords (offset + 4 * commandWordsMax)
    (done.payload ++ [done.status])
  return { done.chip with pool := pool }.complete Registers.commandChannel

/-- Sends the frame that the transmit channel's descriptor describes. -/
def sendStaged (c : Chip) : Except Misuse Chip := do
  let bus := (c.registers.read (Registers.dmaDescriptor Registers.transmitChannel)).toNat
  let offset ← c.poolOffset bus
  let words ← c.pool.readWords offset Descriptor.words
  let word (i : Nat) : UInt32 := words[i]?.getD 0
  let buffer ← c.poolOffset (word Descriptor.addressWord).toNat
  let data ← c.pool.read buffer ((word Descriptor.controlWord).toNat % 2 ^ 16)
  let frame : Frame := ⟨UInt8.ofNat (word Descriptor.portWord).toNat, data⟩
  let pool ← c.pool.writeWords (offset + 4 * Descriptor.statusWord)
    [word Descriptor.statusWord ||| Descriptor.done]
  return { c with pool := pool, sent := c.sent ++ [frame] }.complete Registers.transmitChannel

/-! ### The processor's side -/

/-- An operation that fails by misuse and changes nothing then. -/
def step (f : Chip → Except Misuse Chip) : DeviceOperation Chip Unit := fun c =>
  match f c with
  | .ok c' => .ok () c'
  | .error e => .error (.misuse e) c

def readRegister (offset : Nat) : DeviceOperation Chip UInt32 := fun c =>
  if offset < Registers.window then
    .ok (c.registers.read offset) c
  else
    .error (.registerOutOfRange offset) c

/-- Writes a register.  A start bit written to a control register starts the channel. -/
def writeRegister (offset : Nat) (value : UInt32) : DeviceOperation Chip Unit := fun c =>
  if offset < Registers.window then
    let c' := { c with registers := c.registers.write offset value }
    if value &&& Registers.start = 0 then
      .ok () c'
    else if offset = Registers.dmaControl Registers.commandChannel then
      step runStaged c'
    else if offset = Registers.dmaControl Registers.transmitChannel then
      step sendStaged c'
    else
      .ok () c'
  else
    .error (.registerOutOfRange offset) c

/-- Whether a command and its payload have as many words as an exchange can carry. -/
def checkCommand (command payload : Nat) : Except Misuse Unit :=
  if command = 0 ∨ commandWordsMax < command then
    .error (.commandLength command)
  else if payloadWordsMax < payload then
    .error (.payloadLength payload)
  else
    .ok ()

/-- Runs one command and waits for it.  The answer is the status and the payload afterwards. -/
def runCommand (command payload : List UInt32) : DeviceOperation Chip (UInt32 × List UInt32) :=
  fun c =>
    match checkCommand command.length payload.length with
    | .error e => .error (.misuse e) c
    | .ok _ =>
      if c.stalled then
        .error (.timeout "schan ioctl" 500) c
      else
        let done := c.execute command payload
        .ok (done.status, done.payload) done.chip

end Chip

end ControlPlane
