import ControlPlane.Proofs.Packet.Layout

/-! # Received frames

The chip fills the buffer that a receive descriptor names and marks the descriptor as done, and a poll
hands on what is in the marked descriptors and clears their marks.

* **Descriptors.**  `received` says what a descriptor holds, and `contents` what consecutive
  descriptors hold.  Both depend on no byte outside the descriptors and their buffers.
* **Polls.**  `Clears` says which marks a poll clears, and `Wiped` what a pool is after they have been
  cleared.  `Placed.handsOn`: a poll comes to that and to offering the frames in the order of the ring.
  Where they are taken, no descriptor holds anything afterwards (`Wiped.contents_of_accepting`); where
  they are not, they stay where they are (`Wiped.frames_of_closed`).
* **Arrivals.**  `Chip.receive_ok`: a frame that arrives is what its descriptor holds from then on,
  and no other descriptor changes. -/

namespace ControlPlane

namespace PacketBuffers

/-! ### Descriptors -/

/-- What the receive descriptor at an offset holds, whose buffer is `slot`. -/
def received (pool : DmaRegion) (offset : Nat) (slot : Buffer) : Received :=
  let status := pool.wordAt (offset + 4 * Descriptor.statusWord)
  let len := status.toNat % 2 ^ 15
  if status &&& Descriptor.done = 0 then
    .nothing
  else if len = 0 ∨ slotBytes < len then
    .malformed
  else
    .frame ⟨UInt8.ofNat (pool.wordAt (offset + 4 * Descriptor.portWord)).toNat,
      pool.get slot.offset len⟩

/-- What consecutive descriptors hold. -/
def contents (pool : DmaRegion) (offset : Nat) : List Buffer → List Received
  | [] => []
  | slot :: slots => received pool offset slot :: contents pool (offset + Descriptor.bytes) slots

/-- The frame that a descriptor holds, if any. -/
def Received.frame? : Received → Option Frame
  | .frame f => some f
  | .nothing => none
  | .malformed => none

variable {pool pool' : DmaRegion} {offset : Nat} {slot : Buffer} {slots : List Buffer} {c : Chip}

theorem read_ok (hd : offset + Descriptor.bytes ≤ c.pool.size)
    (hs : slot.offset + slotBytes ≤ c.pool.size) :
    read offset slot (.emulated c) = .ok (received c.pool offset slot) (.emulated c) := by
  have hwords : offset + 4 * Descriptor.words ≤ c.pool.size := hd
  have hstatus := c.pool.getD_getWords offset (by decide : Descriptor.statusWord < Descriptor.words)
  have hport := c.pool.getD_getWords offset (by decide : Descriptor.portWord < Descriptor.words)
  unfold read received
  rw [Operation.bind_ok (Device.readPoolWords_ok hwords)]
  simp only [hstatus, hport]
  by_cases hdone : c.pool.wordAt (offset + 4 * Descriptor.statusWord) &&& Descriptor.done = 0
  · rw [if_pos hdone, if_pos hdone]
    rfl
  rw [if_neg hdone, if_neg hdone]
  by_cases hlen : (c.pool.wordAt (offset + 4 * Descriptor.statusWord)).toNat % 2 ^ 15 = 0 ∨
      slotBytes < (c.pool.wordAt (offset + 4 * Descriptor.statusWord)).toNat % 2 ^ 15
  · rw [if_pos hlen, if_pos hlen]
    rfl
  · rw [if_neg hlen, if_neg hlen, Operation.bind_ok (Device.readPool_ok (by omega))]
    rfl

/-- What a descriptor holds depends on the descriptor and its buffer alone. -/
theorem received_congr
    (hd : ∀ a, offset ≤ a → a < offset + Descriptor.bytes → pool'.bytes.read a = pool.bytes.read a)
    (hs : ∀ a, slot.offset ≤ a → a < slot.offset + slotBytes →
      pool'.bytes.read a = pool.bytes.read a) :
    received pool' offset slot = received pool offset slot := by
  have hbytes : Descriptor.bytes = 64 := rfl
  have hstatus : pool'.wordAt (offset + 4 * Descriptor.statusWord) =
      pool.wordAt (offset + 4 * Descriptor.statusWord) := by
    have h60 : 4 * Descriptor.statusWord = 60 := rfl
    exact DmaRegion.wordAt_congr fun a _ _ => hd a (by omega) (by omega)
  have hport : pool'.wordAt (offset + 4 * Descriptor.portWord) =
      pool.wordAt (offset + 4 * Descriptor.portWord) := by
    have h16 : 4 * Descriptor.portWord = 16 := rfl
    exact DmaRegion.wordAt_congr fun a _ _ => hd a (by omega) (by omega)
  unfold received
  rw [hstatus, hport]
  dsimp only
  split
  · rfl
  · split
    · rfl
    · rw [DmaRegion.get_congr fun a _ _ => hs a (by omega) (by omega)]

theorem contents_congr
    (hd : ∀ a, offset ≤ a → a < offset + Descriptor.bytes * slots.length →
      pool'.bytes.read a = pool.bytes.read a)
    (hs : ∀ slot ∈ slots, ∀ a, slot.offset ≤ a → a < slot.offset + slotBytes →
      pool'.bytes.read a = pool.bytes.read a) :
    contents pool' offset slots = contents pool offset slots := by
  induction slots generalizing offset with
  | nil => rfl
  | cons slot slots ih =>
      rw [List.length_cons, Nat.mul_succ] at hd
      rw [contents, contents,
        received_congr (fun a _ _ => hd a (by omega) (by omega)) (hs slot List.mem_cons_self),
        ih (fun a _ _ => hd a (by omega) (by omega)) fun other h =>
          hs other (List.mem_cons_of_mem _ h)]

theorem getElem?_contents (pool : DmaRegion) (offset : Nat) (slots : List Buffer) (i : Nat) :
    (contents pool offset slots)[i]? =
      slots[i]?.map (received pool (offset + Descriptor.bytes * i)) := by
  induction slots generalizing offset i with
  | nil => rfl
  | cons slot slots ih =>
      cases i with
      | zero => rfl
      | succ i =>
          rw [contents, List.getElem?_cons_succ, List.getElem?_cons_succ, ih, Nat.mul_succ,
            ← Nat.add_assoc, Nat.add_right_comm]

theorem contents_eq_some {i : Nat} (hi : slots[i]? = some slot) :
    (contents pool offset slots)[i]? = some (received pool (offset + Descriptor.bytes * i) slot) := by
  rw [getElem?_contents, hi, Option.map_some]

theorem length_contents (pool : DmaRegion) (offset : Nat) (slots : List Buffer) :
    (contents pool offset slots).length = slots.length := by
  induction slots generalizing offset with
  | nil => rfl
  | cons slot slots ih => rw [contents, List.length_cons, ih, List.length_cons]

/-- A descriptor that is not marked as done holds nothing. -/
theorem received_of_unmarked
    (h : pool.wordAt (offset + 4 * Descriptor.statusWord) &&& Descriptor.done = 0) :
    received pool offset slot = .nothing := by
  unfold received
  exact if_pos h

theorem received_of_clear (h : pool.wordAt (offset + 4 * Descriptor.statusWord) = 0) :
    received pool offset slot = .nothing := by
  apply received_of_unmarked
  rw [h]
  rfl

/-- Descriptors whose marks are clear hold nothing. -/
theorem contents_of_clear (h : ∀ i < slots.length, statusAt pool offset i = 0) :
    contents pool offset slots = slots.map fun _ => .nothing := by
  refine List.ext_getElem? fun i => ?_
  rw [getElem?_contents, List.getElem?_map]
  cases hi : slots[i]? with
  | none => rfl
  | some slot =>
      obtain ⟨hlt, -⟩ := List.getElem?_eq_some_iff.mp hi
      exact congrArg some (received_of_clear (h i hlt))

/-- A pool that changes in one descriptor and its buffer changes what that descriptor holds. -/
theorem contents_set {b : PacketBuffers} {info : DmaInfo} {i : Nat} (hb : b.Placed info)
    (hslot : b.slots[i]? = some slot)
    (h : ∀ a, a < b.ring.offset + Descriptor.bytes * i ∨
      b.ring.offset + Descriptor.bytes * i + Descriptor.bytes ≤ a →
      a < slot.offset ∨ slot.offset + slotBytes ≤ a → pool'.bytes.read a = pool.bytes.read a) :
    contents pool' b.ring.offset b.slots = (contents pool b.ring.offset b.slots).set i
      (received pool' (b.ring.offset + Descriptor.bytes * i) slot) := by
  have h64 : Descriptor.bytes = 64 := rfl
  obtain ⟨hlt, -⟩ := List.getElem?_eq_some_iff.mp hslot
  have hmem := List.mem_of_getElem? hslot
  refine List.ext_getElem? fun j => ?_
  rw [getElem?_contents, List.getElem?_set, getElem?_contents, length_contents]
  by_cases hj : i = j
  · rw [if_pos hj, if_pos hlt, ← hj, hslot, Option.map_some]
  rw [if_neg hj]
  cases hother : b.slots[j]? with
  | none => rw [Option.map_none, Option.map_none]
  | some other =>
      obtain ⟨hjlt, -⟩ := List.getElem?_eq_some_iff.mp hother
      have hslots := hb.descriptor_le_slot hjlt hmem
      have hother' := hb.descriptor_le_slot hlt (List.mem_of_getElem? hother)
      have hapart := hb.slots_apart hslot hother hj
      rw [Option.map_some, Option.map_some, Option.some_inj]
      refine received_congr (fun a _ _ => h a ?_ (.inl (by omega)))
        fun a _ _ => h a (.inr (by omega)) (by omega)
      rw [h64] at *
      omega

/-! ### Polls -/

/-- The descriptors from an offset on and their buffers lie in a pool of `size` bytes, the buffers
above the descriptors. -/
structure RingFits (slots : List Buffer) (offset size : Nat) : Prop where
  descriptors : offset + Descriptor.bytes * slots.length ≤ size
  above : ∀ slot ∈ slots, offset + Descriptor.bytes * slots.length ≤ slot.offset
  inside : ∀ slot ∈ slots, slot.offset + slotBytes ≤ size

/-- Buffers that are placed in a pool fit into it. -/
theorem Placed.ringFits {b : PacketBuffers} {info : DmaInfo} (h : b.Placed info) :
    RingFits b.slots b.ring.offset info.size := by
  have hring := h.ring.inside
  have hbytes : ringBytes = Descriptor.bytes * b.slots.length + Descriptor.bytes := by
    rw [h.length, ringBytes_eq]
  refine ⟨by omega, fun slot hslot => ?_, fun slot hslot => (h.slots slot hslot).inside⟩
  have := h.slots_le slot hslot
  omega

theorem RingFits.tail {size : Nat} (h : RingFits (slot :: slots) offset size) :
    RingFits slots (offset + Descriptor.bytes) size := by
  obtain ⟨hdescriptors, habove, hinside⟩ := h
  rw [List.length_cons, Nat.mul_succ] at hdescriptors habove
  refine ⟨by omega, fun other hother => ?_, fun other hother => ?_⟩
  · have := habove other (List.mem_cons_of_mem _ hother)
    omega
  · exact hinside other (List.mem_cons_of_mem _ hother)

/-- The first of the descriptors can be read. -/
theorem RingFits.read_ok (h : RingFits (slot :: slots) offset c.pool.size) :
    PacketBuffers.read offset slot (.emulated c) =
      .ok (received c.pool offset slot) (.emulated c) := by
  refine PacketBuffers.read_ok ?_ (h.inside slot List.mem_cons_self)
  have hdescriptors := h.descriptors
  rw [List.length_cons, Nat.mul_succ] at hdescriptors
  omega

/-- A pool in which the mark of the descriptor at an offset is cleared. -/
def cleared (pool : DmaRegion) (offset : Nat) : DmaRegion :=
  pool.putWords (offset + 4 * Descriptor.statusWord) [0]

/-- The mark of the first of the descriptors can be cleared. -/
theorem RingFits.rearm_ok (h : RingFits (slot :: slots) offset c.pool.size) :
    rearm offset (.emulated c) = .ok () (.emulated (c.setPool (cleared c.pool offset))) := by
  have hmark : offset + Descriptor.bytes ≤ c.pool.size := by
    have hdescriptors := h.descriptors
    rw [List.length_cons, Nat.mul_succ] at hdescriptors
    omega
  exact Device.writePoolWords_ok hmark

/-- The descriptors after the first one hold what they held. -/
theorem RingFits.contents_cleared {size : Nat} (h : RingFits (slot :: slots) offset size) :
    contents (cleared pool offset) (offset + Descriptor.bytes) slots =
      contents pool (offset + Descriptor.bytes) slots := by
  refine contents_congr (fun a _ _ => pool.read_putWords_apart (.inr ?_)) fun other hother a _ _ =>
    pool.read_putWords_apart (.inr ?_)
  · change offset + 60 + 4 ≤ a
    change offset + 64 ≤ a at *
    omega
  · have := h.tail.above other hother
    change offset + 60 + 4 ≤ a
    change offset + 64 + _ ≤ _ at this
    omega

/-- A poll clears the mark of the `i`-th of some descriptors: it holds something and, unless frames are
taken, there is no frame up to it. -/
structure Clears (accepting : Bool) (held : List Received) (i : Nat) : Prop where
  marked : ∃ x, held[i]? = some x ∧ x ≠ .nothing
  reached : accepting = true ∨ ∀ j ≤ i, ∀ f, held[j]? ≠ some (.frame f)

theorem not_clears_nil {accepting : Bool} {i : Nat} : ¬ Clears accepting [] i := by
  rintro ⟨⟨x, hx, -⟩, -⟩
  cases hx

section cons

variable {accepting : Bool} {x : Received} {held : List Received}

theorem clears_zero_iff :
    Clears accepting (x :: held) 0 ↔ x ≠ .nothing ∧ (accepting = true ∨ ∀ f, x ≠ .frame f) := by
  constructor
  · rintro ⟨⟨_, ⟨⟩, hx⟩, hreached⟩
    exact ⟨hx, hreached.imp_right fun hnone f hf => hnone 0 (Nat.le_refl 0) f (congrArg some hf)⟩
  · rintro ⟨hx, hreached⟩
    refine ⟨⟨x, rfl, hx⟩, hreached.imp_right fun hnone j hj f hf => ?_⟩
    obtain rfl := Nat.le_zero.mp hj
    exact hnone f (Option.some.inj hf)

/-- A descriptor at which a poll does not stop has no say in what is cleared after it. -/
theorem clears_succ_iff (hx : accepting = true ∨ ∀ f, x ≠ .frame f) {i : Nat} :
    Clears accepting (x :: held) (i + 1) ↔ Clears accepting held i := by
  constructor
  · rintro ⟨hmarked, hreached⟩
    exact ⟨hmarked, hreached.imp_right fun hnone j hj => hnone (j + 1) (Nat.succ_le_succ hj)⟩
  · rintro ⟨hmarked, hreached⟩
    refine ⟨hmarked, ?_⟩
    rcases hreached with haccepting | hnone
    · exact .inl haccepting
    · refine hx.imp_right fun hfirst j hj f hf => ?_
      cases j with
      | zero => exact hfirst f (Option.some.inj hf)
      | succ j => exact hnone j (Nat.le_of_succ_le_succ hj) f hf

/-- A frame that nobody takes ends a poll. -/
theorem not_clears_of_frame {f : Frame} {i : Nat} : ¬ Clears false (.frame f :: held) i := by
  rintro ⟨-, haccepting | hnone⟩
  · cases haccepting
  · exact hnone 0 (Nat.zero_le i) f rfl

/-- What is not cleared where frames are taken is nothing. -/
theorem eq_nothing_of_not_clears {i : Nat} (h : ¬ Clears true held i) (hx : held[i]? = some x) :
    x = .nothing :=
  Classical.byContradiction fun hne => h ⟨⟨x, hx, hne⟩, .inl rfl⟩

/-- What is cleared where nobody takes frames is no frame. -/
theorem Clears.frame?_eq_none {i : Nat} (h : Clears false held i) (hx : held[i]? = some x) :
    x.frame? = none := by
  cases x with
  | nothing => rfl
  | malformed => rfl
  | frame f =>
      rcases h.reached with haccepting | hnone
      · cases haccepting
      · exact (hnone i (Nat.le_refl i) f hx).elim

/-- Where nobody takes frames, only what is malformed is cleared. -/
theorem not_clears_of_notMem {i : Nat} (h : .malformed ∉ held) : ¬ Clears false held i := by
  intro hclears
  obtain ⟨x, hx, hne⟩ := hclears.marked
  have hframe := hclears.frame?_eq_none hx
  cases x with
  | nothing => exact hne rfl
  | malformed => exact h (List.mem_of_getElem? hx)
  | frame f => cases hframe

end cons

/-- The marks that a poll clears lie below the buffers. -/
theorem RingFits.marks_le {size i : Nat} {accepting : Bool} (h : RingFits slots offset size)
    (hi : slots[i]? = some slot) (j : Nat) (hj : Clears accepting (contents pool offset slots) j) :
    offset + Descriptor.bytes * (j + 1) ≤ slot.offset := by
  obtain ⟨x, hx, -⟩ := hj.marked
  obtain ⟨hlt, -⟩ := List.getElem?_eq_some_iff.mp hx
  rw [length_contents] at hlt
  have := h.above slot (List.mem_of_getElem? hi)
  have : Descriptor.bytes * (j + 1) ≤ Descriptor.bytes * slots.length := Nat.mul_le_mul_left _ hlt
  omega

/-- Whether a byte belongs to the mark of the `i`-th descriptor from an offset on. -/
def InMark (offset i a : Nat) : Prop :=
  offset + Descriptor.bytes * i + 4 * Descriptor.statusWord ≤ a ∧
    a < offset + Descriptor.bytes * i + 4 * Descriptor.statusWord + 4

theorem inMark_iff {i a : Nat} :
    InMark offset i a ↔ offset + 64 * i + 60 ≤ a ∧ a < offset + 64 * i + 64 := Iff.rfl

/-- `pool'` is `pool` with the marks of some of the descriptors from an offset on cleared. -/
structure Wiped (pool : DmaRegion) (offset : Nat) (marks : Nat → Prop) (pool' : DmaRegion) : Prop where
  size : pool'.size = pool.size
  zero : ∀ i a, marks i → InMark offset i a → pool'.bytes.read a = 0
  kept : ∀ a, (∀ i, marks i → ¬ InMark offset i a) → pool'.bytes.read a = pool.bytes.read a

section wiped

variable {marks : Nat → Prop}

theorem wiped_of_none (h : ∀ i, ¬ marks i) : Wiped pool offset marks pool :=
  ⟨rfl, fun i _ hi => (h i hi).elim, fun _ _ => rfl⟩

/-- The first mark is left as it is. -/
theorem Wiped.pass (h0 : ¬ marks 0)
    (h : Wiped pool (offset + Descriptor.bytes) (fun i => marks (i + 1)) pool') :
    Wiped pool offset marks pool' := by
  have h64 : Descriptor.bytes = 64 := rfl
  refine ⟨h.size, fun i a hi ha => ?_, fun a ha => h.kept a fun i hi hmark => ha (i + 1) hi ?_⟩
  · cases i with
    | zero => exact (h0 hi).elim
    | succ i =>
        refine h.zero i a hi ?_
        rw [inMark_iff] at ha ⊢
        omega
  · rw [inMark_iff] at hmark ⊢
    omega

/-- The first mark is cleared. -/
theorem Wiped.clear (h0 : marks 0)
    (h : Wiped (cleared pool offset) (offset + Descriptor.bytes) (fun i => marks (i + 1)) pool') :
    Wiped pool offset marks pool' := by
  have h64 : Descriptor.bytes = 64 := rfl
  have hzero : (cleared pool offset).get (offset + 60) 4 = List.replicate 4 0 :=
    pool.get_put_self (offset + 60) (Word.toBytes [0])
  refine ⟨h.size, fun i a hi ha => ?_, fun a ha => ?_⟩
  · cases i with
    | zero =>
        rw [inMark_iff] at ha
        rw [h.kept a fun i _ hmark => ?_]
        · exact DmaRegion.read_of_clear hzero (by omega) (by omega)
        · rw [inMark_iff] at hmark
          omega
    | succ i =>
        refine h.zero i a hi ?_
        rw [inMark_iff] at ha ⊢
        omega
  · have hfirst := ha 0 h0
    rw [inMark_iff] at hfirst
    rw [h.kept a fun i hi hmark => ha (i + 1) hi ?_]
    · refine pool.read_putWords_apart ?_
      change a < offset + 60 ∨ offset + 60 + 4 ≤ a
      omega
    · rw [inMark_iff] at hmark ⊢
      omega

/-- No address of a buffer is cleared. -/
theorem Wiped.named (h : Wiped pool offset marks pool') (hn : Named pool offset slots) :
    Named pool' offset slots := by
  have h64 : Descriptor.bytes = 64 := rfl
  intro i slot hi
  rw [← hn i slot hi]
  refine DmaRegion.wordAt_congr fun a hle hlt => h.kept a fun j _ hmark => ?_
  rw [h64] at hle hlt
  rw [inMark_iff] at hmark
  omega

/-- A descriptor whose mark is cleared holds nothing. -/
theorem Wiped.received_of_mark (h : Wiped pool offset marks pool') {i : Nat} (hi : marks i) :
    received pool' (offset + Descriptor.bytes * i) slot = .nothing :=
  received_of_clear (DmaRegion.wordAt_of_zero fun a hle hlt => h.zero i a hi ⟨hle, hlt⟩)

/-- A descriptor whose mark is not cleared holds what it held, if its buffer lies above all marks. -/
theorem Wiped.received_eq (h : Wiped pool offset marks pool') {i : Nat} (hi : ¬ marks i)
    (hs : ∀ j, marks j → offset + Descriptor.bytes * (j + 1) ≤ slot.offset) :
    received pool' (offset + Descriptor.bytes * i) slot =
      received pool (offset + Descriptor.bytes * i) slot := by
  have h64 : Descriptor.bytes = 64 := rfl
  refine received_congr (fun a hle hlt => h.kept a fun j hj hmark => hi ?_) fun a hle _ =>
    h.kept a fun j hj hmark => ?_
  · rw [h64] at hle hlt
    rw [inMark_iff] at hmark
    obtain rfl : j = i := by omega
    exact hj
  · have := hs j hj
    rw [h64] at this
    rw [inMark_iff] at hmark
    omega

end wiped

/-- What becomes of frames that are offered to somebody who takes them or not. -/
def offer (accepting : Bool) (frames : List Frame) : Operation Device (List Frame) := do
  Operation.require (accepting = true ∨ frames = []) (.other .receiverClosed)
  return frames

theorem offer_ok {accepting : Bool} {frames : List Frame} {d : Device}
    (h : accepting = true ∨ frames = []) : offer accepting frames d = .ok frames d :=
  Operation.bind_ok (Operation.require_ok h)

theorem offer_error {accepting : Bool} {frames : List Frame} {d : Device}
    (h : ¬ (accepting = true ∨ frames = [])) :
    offer accepting frames d = .error (.other .receiverClosed) d :=
  Operation.bind_error (Operation.require_error h)

theorem answer_offer (accepting : Bool) (frames : List Frame) (d : Device) :
    Operation.answer (offer accepting frames) d = if accepting = true ∨ frames = [] then
      .ok frames else .error (.other .receiverClosed) := by
  unfold Operation.answer
  by_cases h : accepting = true ∨ frames = []
  · rw [offer_ok h, if_pos h]
  · rw [offer_error h, if_neg h]

theorem after_offer (accepting : Bool) (frames : List Frame) (d : Device) :
    Operation.after (offer accepting frames) d = d := by
  unfold Operation.after
  by_cases h : accepting = true ∨ frames = []
  · rw [offer_ok h]
  · rw [offer_error h]

/-- A poll clears marks and offers the frames, in the order of the ring. -/
theorem pollSlots_eq (accepting : Bool) {slots : List Buffer} {offset : Nat} {c : Chip}
    (h : RingFits slots offset c.pool.size) :
    ∃ pool', Wiped c.pool offset (Clears accepting (contents c.pool offset slots)) pool' ∧
      pollSlots accepting offset slots (.emulated c) =
        offer accepting ((contents c.pool offset slots).filterMap Received.frame?)
          (.emulated (c.setPool pool')) := by
  induction slots generalizing offset c with
  | nil => exact ⟨c.pool, wiped_of_none fun _ => not_clears_nil, (offer_ok (.inr rfl)).symm⟩
  | cons slot slots ih =>
      have hmarks (x : Received) (hx : accepting = true ∨ ∀ f, x ≠ .frame f) (held : List Received) :
          (fun i => Clears accepting (x :: held) (i + 1)) = Clears accepting held :=
        funext fun _ => propext (clears_succ_iff hx)
      -- The rest is polled in a pool in which the first mark is cleared already.
      have hclear (x : Received) (hn : x ≠ .nothing) (hx : accepting = true ∨ ∀ f, x ≠ .frame f) :
          ∃ pool', Wiped c.pool offset
              (Clears accepting (x :: contents c.pool (offset + Descriptor.bytes) slots)) pool' ∧
            pollSlots accepting (offset + Descriptor.bytes) slots
                (.emulated (c.setPool (cleared c.pool offset))) =
              offer accepting
                ((contents c.pool (offset + Descriptor.bytes) slots).filterMap Received.frame?)
                (.emulated (c.setPool pool')) := by
        have htail : RingFits slots (offset + Descriptor.bytes)
            (c.setPool (cleared c.pool offset)).pool.size := h.tail
        have hcontents : contents (c.setPool (cleared c.pool offset)).pool
            (offset + Descriptor.bytes) slots = contents c.pool (offset + Descriptor.bytes) slots :=
          h.contents_cleared
        obtain ⟨pool', hwiped, hpoll⟩ := ih htail
        rw [hcontents] at hwiped hpoll
        refine ⟨pool', .clear (clears_zero_iff.mpr ⟨hn, hx⟩) ?_, hpoll⟩
        rwa [hmarks x hx]
      unfold pollSlots
      rw [Operation.bind_ok (Operation.lift_ok h.read_ok), contents]
      cases received c.pool offset slot with
      | nothing =>
          obtain ⟨pool', hwiped, hpoll⟩ := ih h.tail
          refine ⟨pool', .pass (fun hzero => (clears_zero_iff.mp hzero).1 rfl) ?_, hpoll⟩
          rwa [hmarks .nothing (.inr nofun)]
      | malformed =>
          obtain ⟨pool', hwiped, hpoll⟩ := hclear .malformed nofun (.inr nofun)
          exact ⟨pool', hwiped, (Operation.bind_ok (Operation.lift_ok h.rearm_ok)).trans hpoll⟩
      | frame f =>
          cases accepting with
          | true =>
              obtain ⟨pool', hwiped, hpoll⟩ := hclear (.frame f) nofun (.inl rfl)
              rw [offer_ok (.inl rfl)] at hpoll
              refine ⟨pool', hwiped, ?_⟩
              exact (Operation.bind_ok (Operation.require_ok rfl)).trans
                ((Operation.bind_ok (Operation.lift_ok h.rearm_ok)).trans
                  ((Operation.bind_ok hpoll).trans (offer_ok (.inl rfl)).symm))
          | false =>
              refine ⟨c.pool, wiped_of_none fun _ => not_clears_of_frame, ?_⟩
              exact (Operation.bind_error (Operation.require_error Bool.false_ne_true)).trans
                (offer_error (not_or.mpr ⟨Bool.false_ne_true, List.cons_ne_nil _ _⟩)).symm

/-- Where frames are taken, no descriptor holds anything after a poll. -/
theorem Wiped.contents_of_accepting {size : Nat} (hfits : RingFits slots offset size)
    (h : Wiped pool offset (Clears true (contents pool offset slots)) pool') :
    contents pool' offset slots = slots.map fun _ => .nothing := by
  refine List.ext_getElem? fun i => ?_
  rw [getElem?_contents, List.getElem?_map]
  cases hi : slots[i]? with
  | none => rfl
  | some slot =>
      refine congrArg some ?_
      by_cases hmarks : Clears true (contents pool offset slots) i
      · exact h.received_of_mark hmarks
      · rw [h.received_eq hmarks (hfits.marks_le hi)]
        exact eq_nothing_of_not_clears hmarks (contents_eq_some hi)

/-- Where nobody takes frames, they are where they were after a poll. -/
theorem Wiped.frames_of_closed {size : Nat} (hfits : RingFits slots offset size)
    (h : Wiped pool offset (Clears false (contents pool offset slots)) pool') :
    (contents pool' offset slots).filterMap Received.frame? =
      (contents pool offset slots).filterMap Received.frame? := by
  have hframes : (contents pool' offset slots).map Received.frame? =
      (contents pool offset slots).map Received.frame? := by
    refine List.ext_getElem? fun i => ?_
    rw [List.getElem?_map, List.getElem?_map, getElem?_contents, getElem?_contents]
    cases hi : slots[i]? with
    | none => rfl
    | some slot =>
        refine congrArg some ?_
        by_cases hmarks : Clears false (contents pool offset slots) i
        · rw [h.received_of_mark hmarks, hmarks.frame?_eq_none (contents_eq_some hi)]
          rfl
        · rw [h.received_eq hmarks (hfits.marks_le hi)]
  have hid : Received.frame? = id ∘ Received.frame? := rfl
  rw [hid, ← List.filterMap_map, ← List.filterMap_map, hframes]

/-- The frames that wait in the ring, in its order. -/
def frames (b : PacketBuffers) (pool : DmaRegion) : List Frame :=
  (contents pool b.ring.offset b.slots).filterMap Received.frame?

/-- What a poll of the ring answers and what it leaves in the pool. -/
structure HandsOn (b : PacketBuffers) (accepting : Bool) (c : Chip) (pool' : DmaRegion) : Prop where
  answer : Operation.answer (b.poll accepting) (.emulated c) =
    if accepting = true ∨ b.frames c.pool = [] then .ok (b.frames c.pool)
    else .error (.other .receiverClosed)
  after : Operation.after (b.poll accepting) (.emulated c) = .emulated (c.setPool pool')
  wiped : Wiped c.pool b.ring.offset (Clears accepting (contents c.pool b.ring.offset b.slots)) pool'

/-- A ring that is placed in a pool can be polled, whatever the pool holds. -/
theorem Placed.handsOn {b : PacketBuffers} {info : DmaInfo} (hb : b.Placed info)
    (hsize : c.pool.size = info.size) (accepting : Bool) : ∃ pool', b.HandsOn accepting c pool' := by
  have hfits : RingFits b.slots b.ring.offset c.pool.size := by
    rw [hsize]
    exact hb.ringFits
  obtain ⟨pool', hwiped, hpoll⟩ := pollSlots_eq accepting hfits
  rw [← poll, ← frames] at hpoll
  refine ⟨pool', ?_, ?_, hwiped⟩
  · rw [Operation.answer, hpoll, ← Operation.answer, answer_offer]
  · rw [Operation.after, hpoll, ← Operation.after, after_offer]

end PacketBuffers

/-! ### Arrivals -/

/-- A frame that comes in: the descriptor that the chip puts it into, the words that the chip writes
there, and the frame's bytes. -/
structure Arrival where
  slot : Nat
  port : UInt32
  status : UInt32
  data : List UInt8
  slot_lt : slot < PacketBuffers.ringSize
  marked : status &&& Descriptor.done ≠ 0
  counted : status.toNat % 2 ^ 15 = data.length
  nonempty : data.length ≠ 0
  fits : data.length ≤ PacketBuffers.slotBytes

/-- The frame as it is to be handed on; the port is the lowest byte of its word. -/
def Arrival.frame (a : Arrival) : Frame := ⟨UInt8.ofNat a.port.toNat, a.data⟩

namespace Chip

variable {c : Chip} {b : PacketBuffers} {a : Arrival}

/-- The chip stores a frame in the buffer that its descriptor names, and marks the descriptor. -/
def receive (ring : Nat) (a : Arrival) (c : Chip) : Except Misuse Chip := do
  let descriptor := ring + Descriptor.bytes * a.slot
  let words ← c.pool.readWords descriptor Descriptor.words
  let buffer ← c.poolOffset (words[Descriptor.addressWord]?.getD 0).toNat
  let pool ← c.pool.write buffer a.data
  let pool ← pool.writeWords (descriptor + 4 * Descriptor.portWord) [a.port]
  let pool ← pool.writeWords (descriptor + 4 * Descriptor.statusWord) [a.status]
  return c.setPool pool

/-- The pool after a frame has arrived in a slot, whose descriptor has the given offset. -/
def filled (pool : DmaRegion) (descriptor : Nat) (slot : Buffer) (a : Arrival) : DmaRegion :=
  ((pool.put slot.offset a.data).putWords (descriptor + 4 * Descriptor.portWord) [a.port]).putWords
    (descriptor + 4 * Descriptor.statusWord) [a.status]

theorem size_filled (pool : DmaRegion) (descriptor : Nat) (slot : Buffer) (a : Arrival) :
    (filled pool descriptor slot a).size = pool.size := by
  rw [filled, DmaRegion.size_putWords, DmaRegion.size_putWords, DmaRegion.size_put]

/-- An arrival touches two words of the descriptor, and the buffer. -/
theorem read_filled {pool : DmaRegion} {descriptor x : Nat} {slot : Buffer}
    (hd : x < descriptor + 4 * Descriptor.portWord ∨ descriptor + Descriptor.bytes ≤ x)
    (hs : x < slot.offset ∨ slot.offset + PacketBuffers.slotBytes ≤ x) :
    (filled pool descriptor slot a).bytes.read x = pool.bytes.read x := by
  have h64 : Descriptor.bytes = 64 := rfl
  have h60 : 4 * Descriptor.statusWord = 60 := rfl
  have h16 : 4 * Descriptor.portWord = 16 := rfl
  have hfits := a.fits
  rw [filled, DmaRegion.read_putWords_apart, DmaRegion.read_putWords_apart, DmaRegion.read_put_apart]
  · omega
  · change x < _ ∨ _ + 4 ≤ x
    omega
  · change x < _ ∨ _ + 4 ≤ x
    omega

/-- What the descriptor holds after the arrival. -/
theorem received_filled (pool : DmaRegion) {descriptor : Nat} {slot : Buffer}
    (hs : descriptor + Descriptor.bytes ≤ slot.offset) :
    PacketBuffers.received (filled pool descriptor slot a) descriptor slot = .frame a.frame := by
  have h64 : Descriptor.bytes = 64 := rfl
  have h60 : 4 * Descriptor.statusWord = 60 := rfl
  have h16 : 4 * Descriptor.portWord = 16 := rfl
  let stored := pool.put slot.offset a.data
  let ported := stored.putWords (descriptor + 4 * Descriptor.portWord) [a.port]
  have hstatus : (filled pool descriptor slot a).wordAt (descriptor + 4 * Descriptor.statusWord) =
      a.status :=
    ported.wordAt_putWords_cons (descriptor + 4 * Descriptor.statusWord) a.status []
  have hport : (filled pool descriptor slot a).wordAt (descriptor + 4 * Descriptor.portWord) =
      a.port := by
    have hself := stored.wordAt_putWords_cons (descriptor + 4 * Descriptor.portWord) a.port []
    rw [filled, DmaRegion.wordAt_putWords_apart]
    · exact hself
    · omega
  have hdata : (filled pool descriptor slot a).get slot.offset a.data.length = a.data := by
    have hself := pool.get_put_self slot.offset a.data
    refine (DmaRegion.get_congr fun x _ _ => ?_).trans hself
    rw [filled, DmaRegion.read_putWords_apart, DmaRegion.read_putWords_apart]
    · change x < _ ∨ _ + 4 ≤ x
      omega
    · change x < _ ∨ _ + 4 ≤ x
      omega
  unfold PacketBuffers.received
  rw [hstatus, hport]
  dsimp only
  rw [if_neg a.marked, a.counted, if_neg, hdata, Arrival.frame]
  exact not_or.mpr ⟨a.nonempty, Nat.not_lt.mpr a.fits⟩

open PacketBuffers (Named contents)

section slots

variable {info : DmaInfo} {pool : DmaRegion} {slot : Buffer}

/-- An arrival changes no address of a buffer. -/
theorem named_filled (hb : b.Placed info) (hslot : b.slots[a.slot]? = some slot)
    (hn : Named pool b.ring.offset b.slots) :
    Named (filled pool (b.ring.offset + Descriptor.bytes * a.slot) slot a) b.ring.offset b.slots := by
  have h64 : Descriptor.bytes = 64 := rfl
  have h16 : 4 * Descriptor.portWord = 16 := rfl
  intro j other hother
  obtain ⟨hjlt, -⟩ := List.getElem?_eq_some_iff.mp hother
  have hslots := hb.descriptor_le_slot hjlt (List.mem_of_getElem? hslot)
  rw [← hn j other hother]
  refine DmaRegion.wordAt_congr fun x _ _ => read_filled ?_ (.inl (by omega))
  rcases Nat.lt_or_ge a.slot j with hj | hj
  · have := Descriptor.end_le_of_lt hj
    exact .inr (by omega)
  · have := Nat.mul_le_mul_left Descriptor.bytes hj
    exact .inl (by omega)

/-- An arrival changes what its own descriptor holds, and no other. -/
theorem contents_filled (hb : b.Placed info) (hslot : b.slots[a.slot]? = some slot) :
    contents (filled pool (b.ring.offset + Descriptor.bytes * a.slot) slot a) b.ring.offset b.slots =
      (contents pool b.ring.offset b.slots).set a.slot (.frame a.frame) := by
  obtain ⟨hlt, -⟩ := List.getElem?_eq_some_iff.mp hslot
  rw [PacketBuffers.contents_set hb hslot fun x hd hs => read_filled (by omega) hs,
    received_filled pool (hb.descriptor_le_slot hlt (List.mem_of_getElem? hslot))]

end slots

/-- The chip finds the buffer by its descriptor. -/
theorem receive_eq {slot : Buffer} (hb : b.Placed ⟨c.poolBase, c.pool.size⟩)
    (hn : Named c.pool b.ring.offset b.slots) (hslot : b.slots[a.slot]? = some slot) :
    c.receive b.ring.offset a =
      .ok (c.setPool (filled c.pool (b.ring.offset + Descriptor.bytes * a.slot) slot a)) := by
  obtain ⟨hlt, -⟩ := List.getElem?_eq_some_iff.mp hslot
  have hmem := List.mem_of_getElem? hslot
  have hlies := hb.slots slot hmem
  have hbefore := hb.descriptor_le_slot hlt hmem
  have hinside : slot.offset + PacketBuffers.slotBytes ≤ c.pool.size := hlies.inside
  have hfits := a.fits
  have hbuffer : c.poolOffset (c.pool.wordAt (b.ring.offset + Descriptor.bytes * a.slot)).toNat =
      .ok slot.offset := by
    rw [hn a.slot slot hslot]
    exact poolOffset_of_lies hlies (by decide)
  have haddress := c.pool.getD_getWords (b.ring.offset + Descriptor.bytes * a.slot)
    (by decide : Descriptor.addressWord < Descriptor.words)
  rw [Descriptor.addressWord, Nat.mul_zero, Nat.add_zero] at haddress
  have hwords : b.ring.offset + Descriptor.bytes * a.slot + 4 * Descriptor.words ≤ c.pool.size := by
    change b.ring.offset + Descriptor.bytes * a.slot + 64 ≤ c.pool.size
    change _ + 64 ≤ _ at hbefore
    omega
  have hport : b.ring.offset + Descriptor.bytes * a.slot + 4 * Descriptor.portWord +
      4 * [a.port].length ≤ (c.pool.put slot.offset a.data).size := by
    change b.ring.offset + Descriptor.bytes * a.slot + 16 + 4 ≤ c.pool.size
    change _ + 64 ≤ _ at hwords
    omega
  have hstatus : b.ring.offset + Descriptor.bytes * a.slot + 4 * Descriptor.statusWord +
      4 * [a.status].length ≤ ((c.pool.put slot.offset a.data).putWords (b.ring.offset +
        Descriptor.bytes * a.slot + 4 * Descriptor.portWord) [a.port]).size := hwords
  have hdata : slot.offset + a.data.length ≤ c.pool.size := by omega
  unfold receive
  simp only [bind, Except.bind]
  rw [DmaRegion.readWords_ok hwords]
  simp only [Descriptor.addressWord, haddress, hbuffer, DmaRegion.write_ok hdata,
    DmaRegion.writeWords_ok hport, DmaRegion.writeWords_ok hstatus]
  rfl

/-- A frame that arrives in a ring whose descriptors name their buffers. -/
theorem receive_ok (hb : b.Placed ⟨c.poolBase, c.pool.size⟩)
    (hn : Named c.pool b.ring.offset b.slots) :
    ∃ pool', c.receive b.ring.offset a = .ok (c.setPool pool') ∧ pool'.size = c.pool.size ∧
      Named pool' b.ring.offset b.slots ∧
      contents pool' b.ring.offset b.slots =
        (contents c.pool b.ring.offset b.slots).set a.slot (.frame a.frame) := by
  have hlt : a.slot < b.slots.length := by
    rw [hb.length]
    exact a.slot_lt
  have hslot := List.getElem?_eq_getElem hlt
  exact ⟨_, receive_eq hb hn hslot, size_filled _ _ _ _, named_filled hb hslot hn,
    contents_filled hb hslot⟩

end Chip

end ControlPlane
