/-! # Registers and command words

The registers through which the processor drives the chip, the words of a command exchange, and
the words of a packet descriptor.

A command is a header word and an address.  The header carries the mark `0x28` in its highest
byte, a count of payload words in bits 8 to 12 and the operation in its lowest byte;
`header?_command` says that a header is read as it was written. -/

namespace ControlPlane

namespace Registers

/-- Registers have offsets below this. -/
def window : Nat := 0x40000

/-- Completion bits of the transfer channels. -/
def dmaStatus : Nat := 0x31150

/-- The channel that carries commands. -/
def commandChannel : Nat := 0

/-- The channel that fills the receive ring. -/
def receiveChannel : Nat := 1

/-- The channel that sends frames. -/
def transmitChannel : Nat := 2

/-- Starts a channel when it is written to the channel's control register. -/
def start : UInt32 := 1

def dmaControl (channel : Nat) : Nat := 0x31140 + 4 * channel

/-- The register that holds the bus address of a channel's buffer. -/
def dmaDescriptor (channel : Nat) : Nat := 0x31158 + 4 * channel

/-- A channel's bit in the status register. -/
def dmaDone (channel : Nat) : UInt32 := UInt32.ofNat (2 ^ channel)

/-- Whether a status word reports the completion of a channel. -/
def isDone (status : UInt32) (channel : Nat) : Bool := status &&& dmaDone channel != 0

end Registers

/-! ### Commands -/

/-- What a command does to the chip's memory. -/
inductive Opcode where
  | write
  | read
  deriving DecidableEq

namespace Opcode

def tag : Opcode → Nat
  | write => 0
  | read => 1

def ofTag? : Nat → Option Opcode
  | 0 => some write
  | 1 => some read
  | _ => none

end Opcode

namespace Command

/-- The highest byte of every header. -/
def mark : Nat := 0x28

/-- The words of a command that moves `words` payload words. -/
def encode (op : Opcode) (address : Nat) (words : Nat) : List UInt32 :=
  [UInt32.ofNat (mark * 2 ^ 24 + words % 32 * 2 ^ 8 + op.tag), UInt32.ofNat address]

/-- The operation and payload count of a header. -/
def header? (word : UInt32) : Option (Opcode × Nat) :=
  if word.toNat / 2 ^ 24 = mark then
    (Opcode.ofTag? (word.toNat % 2 ^ 8)).map fun op => (op, word.toNat / 2 ^ 8 % 32)
  else
    none

/-- The header of a command is read as it was written. -/
theorem header?_encode (op : Opcode) (address words : Nat) :
    (encode op address words).head?.bind header? = some (op, words % 32) := by
  have hm : (mark * 2 ^ 24 + words % 32 * 2 ^ 8 + op.tag) % 2 ^ 32 / 2 ^ 24 = mark := by
    cases op <;> simp only [mark, Opcode.tag] <;> omega
  have ht : (mark * 2 ^ 24 + words % 32 * 2 ^ 8 + op.tag) % 2 ^ 32 % 2 ^ 8 = op.tag := by
    cases op <;> simp only [mark, Opcode.tag] <;> omega
  have hw : (mark * 2 ^ 24 + words % 32 * 2 ^ 8 + op.tag) % 2 ^ 32 / 2 ^ 8 % 32 = words % 32 := by
    cases op <;> simp only [mark, Opcode.tag] <;> omega
  have ho : Opcode.ofTag? op.tag = some op := by cases op <;> rfl
  simp only [encode, List.head?_cons, Option.bind_some, header?, UInt32.toNat_ofNat', hm, ht, hw,
    ho, if_true, Option.map_some]

end Command

/-! ### Packet descriptors -/

namespace Descriptor

def words : Nat := 16

def bytes : Nat := 64

/-- The word with the bus address of the packet's buffer. -/
def addressWord : Nat := 0

/-- The word with the transfer's control bits and byte count. -/
def controlWord : Nat := 1

/-- The word whose lowest byte is the packet's port. -/
def portWord : Nat := 4

/-- The word with the completion bit and byte count. -/
def statusWord : Nat := 15

/-- The completion bit of the status word. -/
def done : UInt32 := 0x80000000

/-- The control bits of every transfer. -/
def control : UInt32 := 0x00180000

def transmitWord2 : UInt32 := 0xff000000

def transmitWord3 : UInt32 := 0x00000100

def transmitPort : UInt32 := 0x03030300

end Descriptor

end ControlPlane
