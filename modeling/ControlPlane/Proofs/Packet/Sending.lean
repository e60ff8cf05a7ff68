import ControlPlane.Proofs.Packet.Layout

/-! # Sent frames

A frame is sent in the same steps as an exchange is made, over the transmit channel: it is stored
with a descriptor of it, the completion bit is cleared, the channel is pointed at the descriptor and
started, the chip sends what the descriptor describes, and the processor awaits the bit and halts the
channel.

* **The descriptor.**  `toNat_control` and `ofNat_port`: the chip finds the length and the port in it
  that were put there.
* **The chip's half.**  `Chip.sendStaged_eq`: the chip sends the frame that is stored, and no byte
  that an earlier frame left behind it.
* **The whole.**  `PacketBuffers.send_ok`: the frame is added to those sent, and nothing changes in the
  pool but the transmit descriptor and its buffer (`Chip.Sent`). -/

namespace ControlPlane

/-! ### The descriptor -/

namespace Descriptor

theorem toNat_control {len : Nat} (h : len ≤ frameBytesMax) :
    (control ||| UInt32.ofNat len).toNat % 2 ^ 16 = len := by
  have hcontrol : control.toNat % 2 ^ 16 = 0 := by decide
  have hlen : (UInt32.ofNat len).toNat % 2 ^ 16 = len := by
    rw [UInt32.toNat_ofNat']
    simp only [frameBytesMax] at h
    omega
  rw [UInt32.toNat_or, Nat.or_mod_two_pow, hcontrol, hlen, Nat.zero_or]

theorem ofNat_port (port : PortId) :
    UInt8.ofNat (transmitPort ||| UInt32.ofNat port.num).toNat = UInt8.ofNat port.num := by
  have hport : transmitPort.toNat % 2 ^ 8 = 0 := by decide
  have hnum : (UInt32.ofNat port.num).toNat % 2 ^ 8 = port.num % 2 ^ 8 := by
    rw [UInt32.toNat_ofNat']
    omega
  apply UInt8.toNat.inj
  rw [UInt8.toNat_ofNat', UInt8.toNat_ofNat', UInt32.toNat_or, Nat.or_mod_two_pow, hport, hnum,
    Nat.zero_or]

end Descriptor

/-! ### The chip's half -/

namespace Chip

variable {c c' : Chip} {b : PacketBuffers} {port : PortId} {frame : List UInt8}

/-- A chip after a frame was sent. -/
structure Sent (c : Chip) (b : PacketBuffers) (frame : Frame) (c' : Chip) : Prop
    extends Confined Registers.transmitChannel b.descriptor.offset (b.frame.offset + frameBytesMax)
      c c' where
  memory : c'.memory = c.memory
  sent : c'.sent = c.sent ++ [frame]

/-- The frame that the transmit descriptor describes is stored in the transmit buffer. -/
structure Loaded (c : Chip) (b : PacketBuffers) (port : PortId) (frame : List UInt8) : Prop where
  descriptor : c.registers.read (Registers.dmaDescriptor Registers.transmitChannel) =
    UInt32.ofNat b.descriptor.bus
  words : c.pool.getWords b.descriptor.offset Descriptor.words =
    PacketBuffers.transmitWords b.frame.bus port frame.length
  data : c.pool.get b.frame.offset frame.length = frame

/-- A chip that has sent what is loaded. -/
def emitted (c : Chip) (b : PacketBuffers) (port : PortId) (frame : List UInt8) : Chip :=
  ({ c with
      pool := c.pool.putWords (b.descriptor.offset + 4 * Descriptor.statusWord)
        [Descriptor.done ||| UInt32.ofNat frame.length ||| Descriptor.done]
      sent := c.sent ++ [⟨UInt8.ofNat port.num, frame⟩]
    } : Chip).complete Registers.transmitChannel

/-- The chip sends the frame that is loaded. -/
theorem sendStaged_eq (hb : b.Placed ⟨c.poolBase, c.pool.size⟩) (h : c.Loaded b port frame)
    (hf : frame.length ≤ frameBytesMax) : c.sendStaged = .ok (c.emitted b port frame) := by
  have hdescriptor := poolOffset_of_lies hb.descriptor (by decide)
  have hbuffer := poolOffset_of_lies hb.frame (by decide)
  have hinside := hb.descriptor.inside
  have hframe := hb.frame.inside
  have hbytes : Descriptor.bytes = 64 := rfl
  have hwords : b.descriptor.offset + 4 * Descriptor.words ≤ c.pool.size := hinside
  have hdata : b.frame.offset + frame.length ≤ c.pool.size := Nat.le_trans (by omega) hframe
  have hstatus (status : UInt32) :
      b.descriptor.offset + 4 * Descriptor.statusWord + 4 * [status].length ≤ c.pool.size := by
    change b.descriptor.offset + 60 + 4 ≤ c.pool.size
    exact hinside
  have haddress : (PacketBuffers.transmitWords b.frame.bus port frame.length)[
      Descriptor.addressWord]?.getD 0 = UInt32.ofNat b.frame.bus := rfl
  have hcontrol : (PacketBuffers.transmitWords b.frame.bus port frame.length)[
      Descriptor.controlWord]?.getD 0 = Descriptor.control ||| UInt32.ofNat frame.length := rfl
  have hport : (PacketBuffers.transmitWords b.frame.bus port frame.length)[
      Descriptor.portWord]?.getD 0 = Descriptor.transmitPort ||| UInt32.ofNat port.num := rfl
  have hdone : (PacketBuffers.transmitWords b.frame.bus port frame.length)[
      Descriptor.statusWord]?.getD 0 = Descriptor.done ||| UInt32.ofNat frame.length := rfl
  simp only [sendStaged, h.descriptor, hdescriptor, bind, Except.bind, DmaRegion.readWords_ok hwords,
    h.words, haddress, hbuffer, hcontrol, Descriptor.toNat_control hf, DmaRegion.read_ok hdata, h.data,
    hport, Descriptor.ofNat_port, hdone, DmaRegion.writeWords_ok (hstatus _)]
  rfl

/-- What the chip does is confined to the transmit descriptor. -/
theorem sent_emitted (port : PortId) (frame : List UInt8)
    (hb : b.Placed ⟨c.poolBase, c.pool.size⟩) :
    c.Sent b ⟨UInt8.ofNat port.num, frame⟩ (c.emitted b port frame) where
  toConfined := by
    have hframe := hb.frame_le
    have hput : b.descriptor.offset + 4 * Descriptor.statusWord + 4 * [Descriptor.done |||
        UInt32.ofNat frame.length ||| Descriptor.done].length ≤
        b.frame.offset + frameBytesMax := by
      change b.descriptor.offset + 60 + 4 ≤ _
      change b.descriptor.offset + 64 ≤ _ at hframe
      omega
    exact ((c.confined_putWords (Nat.le_add_right _ _) hput).setMemory c.memory _).trans
      (confined_complete _ (by decide))
  memory := complete_memory _ _
  sent := complete_sent _ _

theorem done_emitted (c : Chip) (b : PacketBuffers) (port : PortId) (frame : List UInt8)
    (h : c.stalled = false) : (c.emitted b port frame).done Registers.transmitChannel = true := by
  rw [emitted, done_complete _ (by decide)]
  change (_ || !c.stalled) = true
  rw [h, Bool.not_false, Bool.or_true]

end Chip

/-! ### The processor's half -/

namespace Channel

theorem launch_transmit_eq (settings : ChannelSettings) (staging : Option Nat) (c : Chip) (bus : Nat) :
    launch Registers.transmitChannel bus ⟨.emulated c, settings, staging⟩ =
      match (launched c Registers.transmitChannel bus).sendStaged with
      | .ok c' => .ok () ⟨.emulated c', settings, staging⟩
      | .error e => .error (.misuse e)
          ⟨.emulated (launched c Registers.transmitChannel bus), settings, staging⟩ := by
  refine launch_eq c bus (by decide) fun c => ?_
  unfold Chip.writeRegister
  rw [if_pos (by decide), if_neg (by decide), if_neg (by decide), if_pos rfl]
  rfl

end Channel

namespace PacketBuffers

variable {c : Chip} {b : PacketBuffers} {frame : List UInt8}

/-- The chip once a frame and its descriptor are stored. -/
def stored (c : Chip) (b : PacketBuffers) (port : PortId) (frame : List UInt8) : Chip :=
  (c.setPool (c.pool.put b.frame.offset frame)).setPool
    ((c.pool.put b.frame.offset frame).putWords b.descriptor.offset
      (transmitWords b.frame.bus port frame.length))

/-- The chip once a frame is stored and the transmit channel is pointed at its descriptor. -/
def loaded (c : Chip) (b : PacketBuffers) (port : PortId) (frame : List UInt8) : Chip :=
  Channel.launched ((stored c b port frame).cleared Registers.transmitChannel)
    Registers.transmitChannel b.descriptor.bus

theorem confined_loaded (hb : b.Placed ⟨c.poolBase, c.pool.size⟩) (port : PortId)
    (hf : frame.length ≤ frameBytesMax) :
    c.Confined Registers.transmitChannel b.descriptor.offset (b.frame.offset + frameBytesMax)
      (loaded c b port frame) := by
  have hframe := hb.frame_le
  have hwords : 4 * (transmitWords b.frame.bus port frame.length).length = Descriptor.bytes := rfl
  have hput : c.Confined Registers.transmitChannel b.descriptor.offset
      (b.frame.offset + frameBytesMax) (c.setPool (c.pool.put b.frame.offset frame)) :=
    c.confined_put (by omega) (by omega)
  have hstored : c.Confined Registers.transmitChannel b.descriptor.offset
      (b.frame.offset + frameBytesMax) (stored c b port frame) :=
    hput.trans (Chip.confined_putWords _ (Nat.le_refl _) (by omega))
  exact (hstored.trans (Chip.confined_cleared _ (by decide))).trans
    (Channel.confined_launched _ _ (by decide))

theorem memory_loaded (c : Chip) (b : PacketBuffers) (port : PortId) (frame : List UInt8) :
    (loaded c b port frame).memory = c.memory := by
  simp only [loaded, Channel.launched, Chip.cleared, Chip.setRegister, stored, Chip.setPool]

theorem sent_loaded (c : Chip) (b : PacketBuffers) (port : PortId) (frame : List UInt8) :
    (loaded c b port frame).sent = c.sent := by
  simp only [loaded, Channel.launched, Chip.cleared, Chip.setRegister, stored, Chip.setPool]

/-- The frame's bytes are stored as they are, whatever was in the buffer before. -/
theorem loaded_loaded (hb : b.Placed ⟨c.poolBase, c.pool.size⟩) (port : PortId)
    (frame : List UInt8) : (loaded c b port frame).Loaded b port frame where
  descriptor := Channel.descriptor_launched _ _ _
  words := (c.pool.put b.frame.offset frame).getWords_putWords_self b.descriptor.offset
    (transmitWords b.frame.bus port frame.length)
  data := by
    have hframe := hb.frame_le
    have hapart : ((c.pool.put b.frame.offset frame).putWords b.descriptor.offset
        (transmitWords b.frame.bus port frame.length)).get b.frame.offset frame.length =
        (c.pool.put b.frame.offset frame).get b.frame.offset frame.length := by
      refine DmaRegion.get_put_apart _ (.inr ?_)
      rw [Word.length_toBytes]
      exact hframe
    exact hapart.trans (c.pool.get_put_self b.frame.offset frame)

/-- A frame that is sent out of a port. -/
theorem send_ok (hb : b.Placed ⟨c.poolBase, c.pool.size⟩) (hst : c.stalled = false) (port : PortId)
    (hf : frame.length ≤ frameBytesMax) (settings : ChannelSettings) (staging : Option Nat) :
    ∃ c', b.send port frame ⟨.emulated c, settings, staging⟩ =
        .ok () ⟨.emulated c', settings, staging⟩ ∧
      c.Sent b ⟨UInt8.ofNat port.num, frame⟩ c' := by
  have hframe : b.frame.offset + frame.length ≤ c.pool.size := by
    have hinside := hb.frame.inside
    dsimp only at hinside
    omega
  have hdescriptor : b.descriptor.offset + 4 * (transmitWords b.frame.bus port frame.length).length ≤
      c.pool.size := hb.descriptor.inside
  have hconfined := confined_loaded hb port hf
  have hplaced : b.Placed ⟨(loaded c b port frame).poolBase, (loaded c b port frame).pool.size⟩ := by
    rw [hconfined.poolBase, hconfined.poolSize]
    exact hb
  have hsend := Chip.sendStaged_eq hplaced (loaded_loaded hb port frame) hf
  have hsent := Chip.sent_emitted port frame hplaced
  have hdone := Chip.done_emitted (loaded c b port frame) b port frame
    (hconfined.stalled.trans hst)
  have hlaunch := Channel.launch_transmit_eq settings staging
    ((stored c b port frame).cleared Registers.transmitChannel) b.descriptor.bus
  change _ = match (loaded c b port frame).sendStaged with
    | .ok c' => _
    | .error e => _ at hlaunch
  rw [hsend] at hlaunch
  have hawait := Channel.awaitDone_eq settings staging
    ((loaded c b port frame).emitted b port frame) Registers.transmitChannel "packet tx"
  rw [hdone, if_pos rfl] at hawait
  have hstaged : b.sendStaged ⟨.emulated (stored c b port frame), settings, staging⟩ =
      .ok () ⟨.emulated (((loaded c b port frame).emitted b port frame).setRegister
        (Registers.dmaControl Registers.transmitChannel) 0), settings, staging⟩ := by
    unfold sendStaged
    rw [Operation.bind_ok (Channel.clearDone_eq _ _), Operation.bind_ok hlaunch,
      Operation.bind_ok (Operation.attempt_ok hawait),
      Operation.bind_ok (Channel.halt_eq _ (by decide))]
    rfl
  have hdescribe : Device.writePoolWords b.descriptor.offset
      (transmitWords b.frame.bus port frame.length)
      (.emulated (c.setPool (c.pool.put b.frame.offset frame))) =
      .ok () (.emulated (stored c b port frame)) := Device.writePoolWords_ok hdescriptor
  exact ⟨_, Operation.lift_ok
    ((Operation.bind_ok (Channel.onDevice_ok (Device.writePool_ok hframe))).trans
      ((Operation.bind_ok (Channel.onDevice_ok hdescribe)).trans hstaged)),
    (hconfined.trans hsent.toConfined).trans (Chip.confined_setRegister _ 0 (.inl rfl) (by decide)),
    hsent.memory.trans (memory_loaded c b port frame),
    hsent.sent.trans (congrArg (· ++ _) (sent_loaded c b port frame))⟩

end PacketBuffers

end ControlPlane
