import ControlPlane.Proofs.Table.Sites

/-! # What failed writes leave in the chip

A write that fails was refused, or nothing was heard of it: then the chip has made it all the same.
`Memory.Sprouts` says that an entry of some table was all zero before and is not any more.

* A write that fails makes an entry sprout only on a chip that is stalled (`Table.write_leaves`).
* Of two writes that belong together, the first can leave something in this way; once it has been
  reported, it can be taken back (`Table.writePair_leaves`). -/

namespace ControlPlane

open Operation (Ends)

namespace Memory

/-- Each word is as it was, or zero. -/
def Fades (m m' : Memory UInt32) : Prop := ∀ a, m'.read a = m.read a ∨ m'.read a = 0

/-- An entry was all zero, and is not any more. -/
def Sprouts (m m' : Memory UInt32) : Prop :=
  ∃ t i, i < Table.depth t ∧ (Site.entry t i).stored m = (Site.entry t i).blank ∧
    (Site.entry t i).stored m' ≠ (Site.entry t i).blank

variable {m m' m'' : Memory UInt32}

theorem Fades.refl (m : Memory UInt32) : m.Fades m := fun _ => .inl rfl

theorem Fades.trans (h : m.Fades m') (h' : m'.Fades m'') : m.Fades m'' := by
  intro a
  rcases h' a with heq | hzero
  · rw [heq]
    exact h a
  · exact .inr hzero

/-- Nothing sprouts where words only fade. -/
theorem Fades.not_sprouts (h : m.Fades m') : ¬ m.Sprouts m' := by
  rintro ⟨t, i, -, hblank, hnot⟩
  refine hnot ?_
  rw [Site.stored_eq_blank_iff] at hblank ⊢
  intro a ha
  rcases h a with heq | hzero
  · rw [heq]
    exact hblank a ha
  · exact hzero

end Memory

section writes

variable {δ : Type} [Bus δ] [MemoryBus δ] {bus bus' : δ}

namespace Site

variable {s : Site} {words : List UInt32}

/-- A write leaves all words of other addresses as they are. -/
theorem Wrote.read_eq (h : s.Wrote words bus bus') (hl : words.length = s.words) {a : Nat}
    (ha : a ∉ wordAddresses s.address s.words) :
    (MemoryBus.backing bus').memory.read a = (MemoryBus.backing bus).memory.read a := by
  rw [h.backing_eq, Backing.write]
  split
  · rfl
  · refine Memory.read_writeAll_of_notMem _ _ _ fun w hw he => ha ?_
    rw [← hl, ← he]
    exact (List.of_mem_zip hw).1

/-- A site that was cleared, or could not be, has faded. -/
theorem Wrote.fades (h : s.Wrote s.blank bus bus') (hs : s.OnChip) :
    (MemoryBus.backing bus).memory.Fades (MemoryBus.backing bus').memory := by
  have hl : s.blank.length = s.words := List.length_replicate
  intro a
  by_cases ha : a ∈ wordAddresses s.address s.words
  · cases hr : (MemoryBus.backing bus).refuses s.address s.words with
    | true => exact .inl (by rw [h.backing_of_refused hl hr])
    | false => exact .inr (stored_eq_blank_iff.mp (h.stored_self hs hl hr) a ha)
  · exact .inl (h.read_eq hl ha)

/-- What becomes of a site that is cleared. -/
theorem wrote_of_clear (hs : s.OnChip) (h : MemoryBus.Sound bus) :
    s.Wrote s.blank bus (Operation.after (s.write s.blank) bus) :=
  Ends.after ((write_ends hs List.length_replicate h).mono (fun _ _ hq => hq.1) fun _ _ he => he.1)

end Site

/-- What is written to an entry is not reported, and makes an entry sprout. -/
def Table.Strays (t : Table) (i : Nat) (words : List UInt32) (bus : δ) : Prop :=
  (MemoryBus.backing bus).stalls = true ∧
    (MemoryBus.backing bus).refuses (t.address i) t.words = false ∧
    (MemoryBus.backing bus).memory.Sprouts
      ((MemoryBus.backing bus).memory.writeAll (wordWrites (t.address i) words))

namespace Table

variable {t u : Table} {i j : Nat} {words ws : List UInt32}

/-- What a failed write leaves. -/
theorem write_leaves (hi : i < t.depth) (hl : words.length = t.words) (h : MemoryBus.Sound bus) :
    Ends (t.write i words) bus
      (fun _ bus' => (Site.entry t i).Wrote words bus bus' ∧ (Site.entry t i).Taken bus)
      fun _ bus' => (MemoryBus.backing bus).memory.Sprouts (MemoryBus.backing bus').memory ↔
        t.Strays i words bus := by
  have hs : (Site.entry t i).OnChip := hi
  rw [t.write_eq hi hl]
  refine (Site.write_ends hs hl h).mono (fun _ _ hq => hq) ?_
  rintro e bus' ⟨hwrote, hnot⟩
  have hsame (hr : (MemoryBus.backing bus).refuses (t.address i) t.words = true) :
      ¬ (MemoryBus.backing bus).memory.Sprouts (MemoryBus.backing bus').memory := by
    rw [hwrote.backing_of_refused hl hr]
    exact (Memory.Fades.refl _).not_sprouts
  cases hstalls : (MemoryBus.backing bus).stalls with
  | false =>
      refine iff_of_false (hsame (Site.refused_of_not_taken hstalls hnot)) fun hstray => ?_
      cases hstalls.symm.trans hstray.1
  | true =>
      cases hr : (MemoryBus.backing bus).refuses (t.address i) t.words with
      | true => exact iff_of_false (hsame hr) fun hstray => by cases hr.symm.trans hstray.2.1
      | false =>
          have hmade : (MemoryBus.backing bus').memory =
              (MemoryBus.backing bus).memory.writeAll (wordWrites (t.address i) words) := by
            rw [hwrote.backing_eq, Backing.write, hl]
            change (if (MemoryBus.backing bus).refuses (t.address i) t.words = true then _
              else _ : Backing).memory = _
            rw [if_neg (by rw [hr]; exact Bool.false_ne_true)]
            rfl
          rw [hmade]
          exact ⟨fun hsprouts => ⟨hstalls, hr, hsprouts⟩, fun hstray => hstray.2.2⟩

/-- A write that was reported can be taken back. -/
theorem clear_fades (hi : i < t.depth) (hl : words.length = t.words)
    (hwrote : (Site.entry t i).Wrote words bus bus') (htaken : (Site.entry t i).Taken bus)
    {bus'' : δ} (hsound : MemoryBus.Sound bus'')
    (hsame : MemoryBus.backing bus'' = MemoryBus.backing bus') :
    (MemoryBus.backing bus).memory.Fades
      (MemoryBus.backing (Operation.after (t.clear i) bus'')).memory := by
  have hs : (Site.entry t i).OnChip := hi
  rw [t.clear_eq hi]
  have hclear := Site.wrote_of_clear hs hsound
  have hr : (MemoryBus.backing bus'').refuses (Site.entry t i).address (Site.entry t i).words =
      false := by
    rw [hsame, hwrote.backing_eq, Backing.write_refuses]
    exact htaken.not_refused
  intro a
  by_cases ha : a ∈ wordAddresses (Site.entry t i).address (Site.entry t i).words
  · exact .inr (Site.stored_eq_blank_iff.mp (hclear.stored_self hs List.length_replicate hr) a ha)
  · left
    rw [hclear.read_eq List.length_replicate ha, hsame, hwrote.read_eq hl ha]

/-- Two writes, the first of which is taken back if the second fails. -/
theorem writePair_leaves (op : Operation δ Unit)
    (hop : op = fun bus => match t.write i words bus with
      | .error e bus => .error e bus
      | .ok _ bus => Operation.orUndo (u.write j ws) (t.clear i) bus)
    (hi : i < t.depth) (hl : words.length = t.words) (hj : j < u.depth) (hl' : ws.length = u.words)
    (h : MemoryBus.Sound bus) :
    Ends op bus (fun _ _ => True) fun _ bus' =>
      (MemoryBus.backing bus).memory.Sprouts (MemoryBus.backing bus').memory ↔
        t.Strays i words bus := by
  subst hop
  have hfirst := write_leaves hi hl h
  cases hb : t.write i words bus with
  | error e bus' => exact Operation.ends_error (by simp only [hb]; rfl) (hfirst.of_error hb)
  | ok a bus' =>
      obtain ⟨hwrote, htaken⟩ := hfirst.of_ok hb
      have hu : (Site.entry u j).OnChip := hj
      have hstalls : (MemoryBus.backing bus').stalls = false :=
        hwrote.stalls_eq.trans htaken.not_stalled
      have hsecond := Site.write_ends hu hl' hwrote.sound
      rw [← u.write_eq hj hl'] at hsecond
      refine Ends.of_eq (Ends.orUndo (hsecond.mono (fun _ _ _ => trivial) ?_)) (by simp only [hb]; rfl)
      rintro e bus'' ⟨hwrote', hnot⟩
      have hsame := hwrote'.backing_of_refused hl' (Site.refused_of_not_taken hstalls hnot)
      refine Ends.of_after (iff_of_false ?_ fun hstray => ?_)
      · exact (clear_fades hi hl hwrote htaken hwrote'.sound hsame).not_sprouts
      · cases htaken.not_stalled.symm.trans hstray.1

end Table

end writes

end ControlPlane
