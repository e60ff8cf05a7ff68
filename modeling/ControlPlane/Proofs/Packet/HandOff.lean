import ControlPlane.Proofs.Packet.Receiving

/-! # Frames are handed on once

The chip writes into descriptors that are not marked as done and into their buffers, and polls come in
between.  Whether anyone takes the frames differs from poll to poll.

* **Runs.**  A `RingCall` is a fill or a poll.  A fill writes what it likes into one descriptor and its
  buffer, so that the descriptor may hold a frame afterwards or not.  A `RingRun` has the device together
  with the frames that have come and those that were handed on.
* **Steps.**  `Kept`: what was handed on and what waits is what has come.  A fill adds a frame to what
  waits and to what has come (`Kept.fill`), and a poll moves what waits to what was handed on if it is
  taken (`Kept.poll`).
* **Result.**  `handed_on_once`: after every run, each frame that has come was handed on once or waits,
  and the next poll whose frames are taken hands on all that wait. -/

namespace ControlPlane

/-- An element that `f` passes over is replaced in a list. -/
theorem perm_filterMap_set {α β : Type} (f : α → Option β) {l : List α} {i : Nat} {x : α} (y : α)
    (hi : l[i]? = some x) (hx : f x = none) :
    ((l.set i y).filterMap f).Perm (l.filterMap f ++ (f y).toList) := by
  obtain ⟨hlt, hget⟩ := List.getElem?_eq_some_iff.mp hi
  have hsplit : l = l.take i ++ x :: l.drop (i + 1) := by
    rw [← hget, ← List.drop_eq_getElem_cons hlt, List.take_append_drop]
  have hfilter : l.filterMap f = (l.take i).filterMap f ++ (l.drop (i + 1)).filterMap f := by
    conv => lhs; rw [hsplit]
    rw [List.filterMap_append, List.filterMap_cons_none hx]
  rw [List.set_eq_take_append_cons_drop, if_pos hlt, List.filterMap_append, hfilter, List.append_assoc]
  apply List.Perm.append_left
  cases hy : f y with
  | none => simp [List.filterMap_cons_none hy]
  | some z =>
      rw [List.filterMap_cons_some hy]
      exact (List.perm_append_singleton z _).symm

open PacketBuffers (Received contents received statusAt slotBytes ringSize)

/-! ### Runs -/

/-- What the chip writes when a frame comes in: words into a descriptor, and bytes into its buffer. -/
structure Fill where
  slot : Nat
  words : List UInt32
  data : List UInt8
  slot_lt : slot < ringSize
  words_le : words.length ≤ Descriptor.words
  data_le : data.length ≤ slotBytes

/-- The pool after a fill. -/
def Fill.into (f : Fill) (b : PacketBuffers) (pool : DmaRegion) : DmaRegion :=
  match b.slots[f.slot]? with
  | some slot =>
      (pool.put slot.offset f.data).putWords (b.ring.offset + Descriptor.bytes * f.slot) f.words
  | none => pool

/-- What happens to a receive ring. -/
inductive RingCall where
  | fill (f : Fill)
  /-- A poll, and whether anyone takes the frames. -/
  | poll (accepting : Bool)

/-- A device after some calls, with the frames that have come and those that were handed on. -/
structure RingRun where
  device : Device
  came : List Frame
  handed : List Frame

namespace RingRun

/-- The frame that the `i`-th descriptor of the ring holds. -/
def frameAt (b : PacketBuffers) (pool : DmaRegion) (i : Nat) : Option Frame :=
  (contents pool b.ring.offset b.slots)[i]?.bind Received.frame?

/-- The start of a run over a chip: what is in the ring already has come. -/
def start (b : PacketBuffers) (c : Chip) : RingRun := ⟨.emulated c, b.frames c.pool, []⟩

/-- The chip fills a descriptor.  It leaves those alone that are marked as done. -/
def fill (b : PacketBuffers) (run : RingRun) (f : Fill) : RingRun :=
  if statusAt run.device.pool b.ring.offset f.slot &&& Descriptor.done = 0 then
    { run with
      device := run.device.mapChip fun c => c.setPool (f.into b c.pool)
      came := run.came ++ (frameAt b (f.into b run.device.pool) f.slot).toList }
  else
    run

/-- The ring is polled. -/
def poll (b : PacketBuffers) (run : RingRun) (accepting : Bool) : RingRun :=
  { run with
    device := Operation.after (b.poll accepting) run.device
    handed := run.handed ++ match Operation.answer (b.poll accepting) run.device with
      | .ok frames => frames
      | .error _ => [] }

def step (b : PacketBuffers) (run : RingRun) : RingCall → RingRun
  | .fill f => run.fill b f
  | .poll accepting => run.poll b accepting

/-- Every frame that has come was handed on once or waits; the next poll hands on those that wait if they
are taken, and leaves them where they are if not. -/
structure Lossless (b : PacketBuffers) (run : RingRun) : Prop where
  held : (run.handed ++ b.frames run.device.pool).Perm run.came
  taken : (run.poll b true).handed = run.handed ++ b.frames run.device.pool
  drained : b.frames (run.poll b true).device.pool = []
  refused : (run.poll b false).handed = run.handed
  waiting : b.frames (run.poll b false).device.pool = b.frames run.device.pool

/-! ### Steps -/

/-- A run over a pool of the right size in which nothing was lost. -/
structure Kept (b : PacketBuffers) (info : DmaInfo) (run : RingRun) : Prop where
  device : ∃ c, run.device = .emulated c ∧ c.pool.size = info.size
  held : (run.handed ++ b.frames run.device.pool).Perm run.came

variable {b : PacketBuffers} {info : DmaInfo} {run : RingRun} {c : Chip}

theorem kept_start (hsize : c.pool.size = info.size) : Kept b info (start b c) :=
  ⟨⟨c, rfl, hsize⟩, .refl _⟩

/-- A fill touches one descriptor and its buffer. -/
theorem contents_into (hb : b.Placed info) (f : Fill) (pool : DmaRegion) {slot : Buffer}
    (hslot : b.slots[f.slot]? = some slot) :
    contents (f.into b pool) b.ring.offset b.slots = (contents pool b.ring.offset b.slots).set f.slot
      (received (f.into b pool) (b.ring.offset + Descriptor.bytes * f.slot) slot) := by
  apply PacketBuffers.contents_set hb hslot
  intro a hd hs
  have hwords := f.words_le
  have hdata := f.data_le
  have h64 : Descriptor.bytes = 4 * Descriptor.words := rfl
  unfold Fill.into
  rw [hslot]
  show ((pool.put slot.offset f.data).putWords _ f.words).bytes.read a = pool.bytes.read a
  rw [DmaRegion.read_putWords_apart, DmaRegion.read_put_apart]
  · omega
  · omega

/-- What waits after a fill of a descriptor that was not marked. -/
theorem frames_into (hb : b.Placed info) (f : Fill) (pool : DmaRegion)
    (hfree : statusAt pool b.ring.offset f.slot &&& Descriptor.done = 0) :
    (b.frames (f.into b pool)).Perm
      (b.frames pool ++ (frameAt b (f.into b pool) f.slot).toList) := by
  have hlt : f.slot < b.slots.length := by
    rw [hb.length]
    exact f.slot_lt
  have hslot := List.getElem?_eq_getElem hlt
  have hold : (contents pool b.ring.offset b.slots)[f.slot]? = some .nothing := by
    rw [PacketBuffers.contents_eq_some hslot, PacketBuffers.received_of_unmarked hfree]
  have hnew : frameAt b (f.into b pool) f.slot = Received.frame?
      (received (f.into b pool) (b.ring.offset + Descriptor.bytes * f.slot) b.slots[f.slot]) := by
    rw [frameAt, PacketBuffers.contents_eq_some hslot]
    rfl
  unfold PacketBuffers.frames
  rw [hnew, contents_into hb f pool hslot]
  exact perm_filterMap_set Received.frame? _ hold rfl

namespace Kept

theorem fill (h : Kept b info run) (hb : b.Placed info) (f : Fill) :
    Kept b info (run.fill b f) := by
  obtain ⟨⟨c, hc, hsize⟩, hheld⟩ := h
  have hpool : run.device.pool = c.pool := by
    rw [hc]
    rfl
  unfold RingRun.fill
  split
  case isFalse => exact ⟨⟨c, hc, hsize⟩, hheld⟩
  case isTrue hfree =>
    rw [hpool] at hfree hheld ⊢
    refine ⟨⟨c.setPool (f.into b c.pool), by rw [hc]; rfl, ?_⟩, ?_⟩
    · show (f.into b c.pool).size = info.size
      rw [← hsize]
      unfold Fill.into
      split <;> rfl
    · have hdevice : (run.device.mapChip fun c => c.setPool (f.into b c.pool)).pool =
          f.into b c.pool := by
        rw [hc]
        rfl
      dsimp only
      rw [hdevice]
      refine ((frames_into hb f c.pool hfree).append_left run.handed).trans ?_
      rw [← List.append_assoc]
      exact hheld.append_right _

/-- What a poll does to a run. -/
theorem poll_cases (h : Kept b info run) (hb : b.Placed info) (accepting : Bool) :
    (∃ c, (run.poll b accepting).device = .emulated c ∧ c.pool.size = info.size) ∧
      (run.poll b accepting).handed =
        run.handed ++ (if accepting then b.frames run.device.pool else []) ∧
      b.frames (run.poll b accepting).device.pool =
        if accepting then [] else b.frames run.device.pool := by
  obtain ⟨⟨c, hc, hsize⟩, -⟩ := h
  have hfits : PacketBuffers.RingFits b.slots b.ring.offset info.size := hb.ringFits
  obtain ⟨pool', hanswer, hafter, hwiped⟩ := hb.handsOn hsize accepting
  unfold RingRun.poll
  rw [hc, hanswer, hafter]
  refine ⟨⟨c.setPool pool', rfl, hwiped.size.trans hsize⟩, ?_, ?_⟩
  · cases accepting with
    | true => rw [if_pos (.inl rfl)]; rfl
    | false =>
        by_cases hempty : b.frames c.pool = []
        · rw [if_pos (.inr hempty), hempty]
          rfl
        · rw [if_neg (not_or.mpr ⟨Bool.false_ne_true, hempty⟩)]
          rfl
  · show b.frames pool' = _
    cases accepting with
    | true =>
        unfold PacketBuffers.frames
        rw [hwiped.contents_of_accepting hfits]
        simp [Received.frame?]
    | false => exact hwiped.frames_of_closed hfits

theorem poll (h : Kept b info run) (hb : b.Placed info) (accepting : Bool) :
    Kept b info (run.poll b accepting) := by
  obtain ⟨hdevice, hhanded, hframes⟩ := h.poll_cases hb accepting
  refine ⟨hdevice, ?_⟩
  show List.Perm _ run.came
  rw [hhanded, hframes]
  cases accepting <;> simpa using h.held

theorem step (h : Kept b info run) (hb : b.Placed info) (call : RingCall) :
    Kept b info (run.step b call) := by
  cases call with
  | fill f => exact h.fill hb f
  | poll accepting => exact h.poll hb accepting

theorem lossless (h : Kept b info run) (hb : b.Placed info) : run.Lossless b := by
  obtain ⟨-, htaken, hdrained⟩ := h.poll_cases hb true
  obtain ⟨-, hrefused, hwaiting⟩ := h.poll_cases hb false
  exact ⟨h.held, htaken, hdrained, hrefused.trans (List.append_nil _), hwaiting⟩

end Kept

end RingRun

/-! ### Result -/

/-- A poll hands on the frames in the ring, in its order, and clears the marks of all that is in the ring, if
the frames are taken; if not, it clears malformed descriptors up to the first frame.  Nothing else changes in
the pool.  So each frame that comes in the course of fills and polls is handed on once, and as it came. -/
theorem PacketBuffers.handed_on_once {b : PacketBuffers} {c : Chip} {d : Device} {pool : DmaRegion}
    (hopen : PacketBuffers.open? (.emulated c) = .ok b d) (hsize : pool.size = c.pool.size) :
    (∀ accepting, ∃ pool', b.HandsOn accepting (c.setPool pool) pool') ∧
      ∀ calls : List RingCall,
        (calls.foldl (RingRun.step b) (.start b (c.setPool pool))).Lossless b := by
  obtain ⟨hplaced, -⟩ := (PacketBuffers.open?_ends c).of_ok hopen
  refine ⟨fun accepting => hplaced.handsOn hsize accepting, fun calls => ?_⟩
  have hkept : RingRun.Kept b ⟨c.poolBase, c.pool.size⟩
      (calls.foldl (RingRun.step b) (.start b (c.setPool pool))) :=
    List.foldlRecOn calls (RingRun.step b) (RingRun.kept_start hsize)
      fun run h call _ => h.step hplaced call
  exact hkept.lossless hplaced

/-- Two frames and a malformed descriptor; the first frame comes before a poll that nobody takes frames
from, and its descriptor is not filled again before a poll that they are taken from. -/
def RingCall.crossed : List RingCall := [
  .fill ⟨5, [0, 0, 0, 0, 7] ++ List.replicate 10 0 ++ [0x80000002], [8, 9],
    by decide, by decide, by decide⟩,
  .fill ⟨2, List.replicate 15 0 ++ [0x80000000], [], by decide, by decide, by decide⟩,
  .poll false,
  .fill ⟨5, List.replicate 15 0 ++ [0x80000001], [1], by decide, by decide, by decide⟩,
  .fill ⟨3, [0, 0, 0, 0, 9] ++ List.replicate 10 0 ++ [0x80000001], [4], by decide, by decide, by decide⟩,
  .poll true]

theorem PacketBuffers.handed_on_once_crossed :
    let c : Chip := .fresh 0x10000000 262144
    ∃ b d, PacketBuffers.open? (.emulated c) = .ok b d ∧
      (RingCall.crossed.foldl (RingRun.step b) (.start b c)).Lossless b ∧
      (RingCall.crossed.foldl (RingRun.step b) (.start b c)).came = [⟨7, [8, 9]⟩, ⟨9, [4]⟩] ∧
      (RingCall.crossed.foldl (RingRun.step b) (.start b c)).handed = [⟨9, [4]⟩, ⟨7, [8, 9]⟩] := by
  intro c
  have hran : (match PacketBuffers.open? (.emulated c) with
      | .ok b _ =>
          let run := RingCall.crossed.foldl (RingRun.step b) (.start b c)
          decide (run.came = [⟨7, [8, 9]⟩, ⟨9, [4]⟩] ∧ run.handed = [⟨9, [4]⟩, ⟨7, [8, 9]⟩])
      | .error _ _ => false) = true := by decide +kernel
  cases hopen : PacketBuffers.open? (.emulated c) with
  | error e d =>
      rw [hopen] at hran
      cases hran
  | ok b d =>
      rw [hopen] at hran
      exact ⟨b, d, rfl, (handed_on_once hopen rfl).2 RingCall.crossed, of_decide_eq_true hran⟩

end ControlPlane
