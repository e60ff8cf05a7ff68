import ControlPlane.Packet.Buffers

/-! # Sending and receiving frames

A frame is sent through one descriptor and one buffer, used again for every frame.  Frames are
received in a ring of 64 descriptors with a buffer each: the chip fills a buffer and marks its
descriptor done, and `poll` hands the frame on and clears the mark.

A mark is cleared only after its frame has been accepted, so a frame that nobody accepted is handed
on by a later poll.  Descriptors that are done with no frame in them, or with a longer one than a
buffer holds, are cleared and passed over. -/

namespace ControlPlane

/-- Where frames lie in the pool on their way out and in. -/
structure PacketBuffers where
  descriptor : Buffer
  frame : Buffer
  ring : Buffer
  /-- The buffers of the ring's descriptors, in order. -/
  slots : List Buffer

namespace PacketBuffers

/-- The number of descriptors that receive frames; one more ends the ring. -/
def ringSize : Nat := 64

/-- The size of a receive buffer. -/
def slotBytes : Nat := 2048

def descriptorAlign : Nat := 64

def frameAlign : Nat := 16

/-- The size of the ring in bytes. -/
def ringBytes : Nat := (ringSize + 1) * Descriptor.bytes

/-! ### Layout -/

/-- An operation that cuts from a buffer pool. -/
def onPool {α : Type} (op : Operation BufferPool α) : Operation (BufferPool × Device) α :=
  Operation.focus Prod.fst (fun s pool => (pool, s.2)) op

def onDevice {α : Type} (op : DeviceOperation Device α) : Operation (BufferPool × Device) α :=
  Operation.focus Prod.snd (fun s d => (s.1, d)) op.lift

/-- Cuts receive buffers and enters them into the descriptors at consecutive offsets. -/
def layoutSlots (offset : Nat) : Nat → Operation (BufferPool × Device) (List Buffer)
  | 0 => pure []
  | count + 1 => do
    let slot ← onPool (BufferPool.alloc slotBytes frameAlign)
    onDevice (Device.writePoolWords offset
      [UInt32.ofNat slot.bus, Descriptor.control ||| UInt32.ofNat slotBytes])
    let slots ← layoutSlots (offset + Descriptor.bytes) count
    return slot :: slots

/-- Cuts all buffers, with every receive descriptor clear but for its buffer. -/
def layout : Operation (BufferPool × Device) PacketBuffers := do
  let descriptor ← onPool (BufferPool.alloc Descriptor.bytes descriptorAlign)
  let frame ← onPool (BufferPool.alloc frameBytesMax frameAlign)
  let ring ← onPool (BufferPool.alloc ringBytes descriptorAlign)
  onDevice (Device.writePool ring.offset (List.replicate ringBytes 0))
  let slots ← layoutSlots ring.offset ringSize
  return ⟨descriptor, frame, ring, slots⟩

/-- Lays the buffers out in a device's pool, above the part kept for exchanges. -/
def open? : Operation Device PacketBuffers := fun d =>
  match (do let info ← Device.dmaInfo; let _ ← Device.mapPool; return info :
      DeviceOperation Device DmaInfo).lift d with
  | .error e d => .error e d
  | .ok info d =>
    match layout (⟨info, Channel.reservedBytes⟩, d) with
    | .ok buffers (_, d) => .ok buffers d
    | .error e (_, d) => .error e d

/-! ### Sending -/

/-- The words of the descriptor for sending `len` bytes at bus address `bus` out of a port. -/
def transmitWords (bus : Nat) (port : PortId) (len : Nat) : List UInt32 :=
  let len := UInt32.ofNat len
  [UInt32.ofNat bus, Descriptor.control ||| len, Descriptor.transmitWord2,
      Descriptor.transmitWord3, Descriptor.transmitPort ||| UInt32.ofNat port.num]
    ++ List.replicate 10 0 ++ [Descriptor.done ||| len]

/-- Sends what lies in the frame buffer. -/
def sendStaged (b : PacketBuffers) : DeviceOperation Channel Unit := do
  Channel.clearDone Registers.transmitChannel
  Channel.launch Registers.transmitChannel b.descriptor.bus
  let done ← Operation.attempt (Channel.awaitDone Registers.transmitChannel "packet tx")
  Channel.halt Registers.transmitChannel
  match done with
  | .ok _ => pure ()
  | .error e => throw e

/-- Sends a frame out of a port. -/
def send (b : PacketBuffers) (port : PortId) (frame : List UInt8) : Operation Channel Unit :=
  DeviceOperation.lift do
    Channel.onDevice (Device.writePool b.frame.offset frame)
    Channel.onDevice (Device.writePoolWords b.descriptor.offset
      (transmitWords b.frame.bus port frame.length))
    sendStaged b

/-! ### Receiving -/

/-- Points the receive channel at the ring and starts it. -/
def startReceiving (b : PacketBuffers) : Operation Channel Unit :=
  (Channel.launch Registers.receiveChannel b.ring.bus).lift

/-- Clears the completion mark of the descriptor at an offset. -/
def rearm (offset : Nat) : DeviceOperation Device Unit :=
  Device.writePoolWords (offset + 4 * Descriptor.statusWord) [0]

/-- What a receive descriptor holds. -/
inductive Received where
  | nothing
  | malformed
  | frame (frame : Frame)

/-- Reads the descriptor at an offset, whose buffer is `slot`. -/
def read (offset : Nat) (slot : Buffer) : DeviceOperation Device Received := do
  let words ← Device.readPoolWords offset Descriptor.words
  let word (i : Nat) : UInt32 := words[i]?.getD 0
  let status := word Descriptor.statusWord
  let len := status.toNat % 2 ^ 15
  if status &&& Descriptor.done = 0 then
    return .nothing
  else if len = 0 ∨ slotBytes < len then
    return .malformed
  else
    let data ← Device.readPool slot.offset len
    return .frame ⟨UInt8.ofNat (word Descriptor.portWord).toNat, data⟩

/-- Hands on the frames of consecutive descriptors; `accepting` tells whether anyone takes them. -/
def pollSlots (accepting : Bool) (offset : Nat) : List Buffer → Operation Device (List Frame)
  | [] => pure []
  | slot :: slots => do
    match ← (read offset slot).lift with
    | .nothing => pollSlots accepting (offset + Descriptor.bytes) slots
    | .malformed =>
      (rearm offset).lift
      pollSlots accepting (offset + Descriptor.bytes) slots
    | .frame frame =>
      Operation.require accepting (.other .receiverClosed)
      (rearm offset).lift
      let frames ← pollSlots accepting (offset + Descriptor.bytes) slots
      return frame :: frames

/-- Hands on every received frame, in the order of the ring. -/
def poll (b : PacketBuffers) (accepting : Bool) : Operation Device (List Frame) :=
  pollSlots accepting b.ring.offset b.slots

end PacketBuffers

end ControlPlane
