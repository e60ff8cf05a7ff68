import ControlPlane.Panel.Ports
import ControlPlane.Proofs.Device.Refusals

/-! # Lanes of a block

The ports of a block share one word, and each has a lane of its own in it (`PortId.locate_inj`).

* **Writing.**  `Ports.ends_setEnabled`: a port's lane is set in the word of its block, the word is written
  whole, and it is recorded if the chip took it.  Else the record stays as it is.
* **Reading.**  Setting one lane leaves all other ports as they were (`Ports.isEnabled_enabling`), those of
  its own block too.
* **The word.**  No lane is ever set that has no port (`Ports.Wired`).  So the lanes that a word has are those
  of the ports of its block that are enabled (`Ports.Wired.testBit_iff`). -/

namespace ControlPlane

open Operation (Ends)

namespace PortId

theorem block_lt (p : PortId) : p.block < Location.blockBases.length := by
  have hone := p.one_le
  have hcount : p.num ≤ 52 := p.le_count
  change p.block < 16
  unfold block macIndex
  split <;> omega

theorem lane_lt (p : PortId) : p.lane < 4 := by
  unfold lane Location.neighbour
  split
  · split
    · split <;> omega
    · omega
  · omega

end PortId

namespace Ports

variable {δ : Type} [Bus δ] {board : Board} {p q : PortId} {on : Bool} {ports : Ports}

/-- The ports with one of them enabled, or disabled. -/
def enabling (ports : Ports) (p : PortId) (on : Bool) : Ports :=
  { ports with
    enables := ports.enables.write p.locate.block
      (Bits.putFlag (ports.enables.read p.locate.block) p.locate.lane on) }

/-! ### Writing -/

/-- A word with the port's lane is written, and recorded if the write succeeds. -/
theorem ends_setEnabled {bus : δ} {Q : Unit → Ports × δ → Prop} {E : Error → Ports × δ → Prop}
    (hp : board.Has p)
    (h : Ends (Bus.write p.locate.enableWord
        [UInt32.ofNat (Bits.putFlag (ports.enables.read p.locate.block) p.locate.lane on)] :
          DeviceOperation δ Unit).lift bus
      (fun u bus' => Q u (ports.enabling p on, bus')) fun e bus' => E e (ports, bus')) :
    Ends (setEnabled board p on) (ports, bus) Q E := by
  cases hb : (Bus.write p.locate.enableWord
      [UInt32.ofNat (Bits.putFlag (ports.enables.read p.locate.block) p.locate.lane on)] :
        DeviceOperation δ Unit).lift bus with
  | ok u bus' =>
      refine Operation.ends_ok (t := (ports.enabling p on, bus')) ?_ (h.of_ok hb)
      simp only [setEnabled, hp, if_true, hb]
      rfl
  | error e bus' =>
      refine Operation.ends_error (t := (ports, bus')) ?_ (h.of_error hb)
      simp only [setEnabled, hp, if_true, hb]

theorem setEnabled_beyond (hp : ¬ board.Has p) (on : Bool) (s : Ports × δ) :
    setEnabled board p on s = .error (.invalid (.beyondPorts p board.ports)) s :=
  if_neg hp

theorem setEnabled_ends {refused : δ → Prop} (ht : Bus.Tells refused) (hp : board.Has p) (on : Bool)
    (ports : Ports) (bus : δ) :
    Ends (setEnabled board p on) (ports, bus) (fun _ t => t.1 = ports.enabling p on)
      fun _ t => refused t.2 := by
  refine ends_setEnabled hp (Ends.mapError ?_)
  cases hb : (Bus.write p.locate.enableWord
      [UInt32.ofNat (Bits.putFlag (ports.enables.read p.locate.block) p.locate.lane on)] :
        DeviceOperation δ Unit) bus with
  | ok u bus' => exact Operation.ends_ok hb rfl
  | error e bus' => exact Operation.ends_error hb (ht.of_error _ _ hb)

/-- Enabling a port again changes no word. -/
theorem enabling_enabling (ports : Ports) (p : PortId) (on : Bool) :
    ((ports.enabling p on).enabling p on).enables.read = (ports.enabling p on).enables.read := by
  funext b
  simp only [enabling, Memory.read_write, Bits.putFlag]
  split
  · simp only [if_true, Bits.put_put_self]
  · rfl

/-! ### Reading -/

theorem isEnabled_eq (ports : Ports) (p : PortId) :
    ports.isEnabled p = (ports.enables.read p.block).testBit p.lane :=
  Bits.flag_eq_testBit _ _

theorem testBit_enabling (ports : Ports) (p : PortId) (on : Bool) (block i : Nat) :
    ((ports.enabling p on).enables.read block).testBit i =
      if p.block = block ∧ p.lane = i then on else (ports.enables.read block).testBit i := by
  change ((ports.enables.write p.block (Bits.putFlag (ports.enables.read p.block) p.lane on)).read
    block).testBit i = _
  rw [Memory.read_write]
  by_cases hb : p.block = block
  · rw [if_pos hb, Bits.testBit_putFlag, hb]
    simp
  · rw [if_neg hb, if_neg fun h => hb h.1]

theorem isEnabled_enabling (ports : Ports) (p q : PortId) (on : Bool) :
    (ports.enabling p on).isEnabled q = if p = q then on else ports.isEnabled q := by
  rw [isEnabled_eq, isEnabled_eq, testBit_enabling]
  have hsame : p.block = q.block ∧ p.lane = q.lane ↔ p = q :=
    ⟨fun h => PortId.locate_inj h.1 h.2, fun h => ⟨h ▸ rfl, h ▸ rfl⟩⟩
  simp only [hsame]

omit [Bus δ] in
theorem answer_enabled (board : Board) (p : PortId) (s : Ports × δ) :
    Operation.answer (enabled board p) s =
      if board.Has p then .ok (s.1.isEnabled p) else .error (.invalid (.beyondPorts p board.ports)) := by
  by_cases hp : board.Has p
  · have heq : enabled board p s = .ok (s.1.isEnabled p) s :=
      Operation.bind_ok (Operation.require_ok hp)
    rw [if_pos hp, Operation.answer, heq]
  · have heq : enabled board p s = .error (.invalid (.beyondPorts p board.ports)) s :=
      Operation.bind_error (Operation.require_error hp)
    rw [if_neg hp, Operation.answer, heq]

/-! ### The word -/

/-- Every lane that is set is that of a port. -/
def Wired (ports : Ports) : Prop := ∀ block i, (ports.enables.read block).testBit i = true →
  ∃ p : PortId, p.block = block ∧ p.lane = i

theorem wired_fresh : fresh.Wired := by
  intro block i h
  rw [show fresh.enables.read block = 0 from Memory.read_clear block, Nat.zero_testBit] at h
  cases h

namespace Wired

theorem enabling (h : ports.Wired) (p : PortId) (on : Bool) : (ports.enabling p on).Wired := by
  intro block i hi
  rw [testBit_enabling] at hi
  split at hi
  · next heq => exact ⟨p, heq⟩
  · exact h block i hi

/-- The word of a block, as the chip is told it, has the lanes of its enabled ports and no others. -/
theorem testBit_iff (h : ports.Wired) (block i : Nat) :
    (UInt32.ofNat (ports.enables.read block)).toNat.testBit i = true ↔
      ∃ p : PortId, p.block = block ∧ p.lane = i ∧ ports.isEnabled p = true := by
  rw [UInt32.toNat_ofNat', Nat.testBit_mod_two_pow, Bool.and_eq_true, decide_eq_true_eq]
  constructor
  · rintro ⟨-, hi⟩
    obtain ⟨p, rfl, rfl⟩ := h block i hi
    exact ⟨p, rfl, rfl, by rw [isEnabled_eq, hi]⟩
  · rintro ⟨p, rfl, rfl, hp⟩
    have hlane := p.lane_lt
    exact ⟨by omega, by rw [← isEnabled_eq, hp]⟩

end Wired

end Ports

end ControlPlane
