import ControlPlane.Proofs.Table.Overlaps
import ControlPlane.Proofs.Table.Reflection
import Mathlib.Data.List.Induction
import Mathlib.Tactic.ByContra

/-! # What a device was told, entry by entry

`Taped δ` is a device `δ` that keeps all that is written to it.  A `Command` is a write of an entry, and
`Told` says that what was written between two states is a list of commands.  There is at most one such
list (`Told.unique`): where entries share words, their widths tell them apart.

Several commands may be about one entry, and the last of them counts (`last?`).  `Image.tell` is an image
of the memory once a list of commands was carried out; it says of an entry what was told of it last
(`Image.tell_iff`). -/

namespace ControlPlane

open Operation (Ends)

/-! ### Devices that keep what they are told -/

/-- A device, and all that was written to it. -/
structure Taped (δ : Type) where
  device : δ
  written : List (Nat × List UInt32)

namespace Taped

variable {δ : Type}

/-- A device that has not been told anything. -/
def start (device : δ) : Taped δ := ⟨device, []⟩

variable [Bus δ]

instance : Bus (Taped δ) where
  write address data := Operation.focus device
    (fun tape device => ⟨device, tape.written ++ [(address, data)]⟩) (Bus.write address data)
  read address words := Operation.focus device
    (fun tape device => { tape with device := device }) (Bus.read address words)
  readable tape := Bus.readable tape.device

/-- What is written is kept whether or not the device takes it. -/
theorem write_ends (address : Nat) (data : List UInt32) (tape : Taped δ) :
    Ends (Bus.write address data : DeviceOperation (Taped δ) Unit) tape
      (fun _ tape' => tape'.written = tape.written ++ [(address, data)])
      fun _ tape' => tape'.written = tape.written ++ [(address, data)] :=
  Ends.focus (Operation.ends_of_forall (fun _ _ => rfl) fun _ _ => rfl)

end Taped

/-! ### Commands -/

/-- The words of an entry. -/
structure Command where
  table : Table
  index : Nat
  words : List UInt32

namespace Command

def site (c : Command) : Site := .entry c.table c.index

/-- The address and the words that are written. -/
def raw (c : Command) : Nat × List UInt32 := (c.table.address c.index, c.words)

/-- The table has the entry, of that width. -/
def OnChip (c : Command) : Prop := c.index < c.table.depth ∧ c.words.length = c.table.words

variable {c c' : Command}

theorem words_pos (c : Command) : 0 < c.site.words := by
  obtain ⟨t, i, ws⟩ := c
  change 0 < t.words
  cases t <;> decide

theorem words_ne_of_overlaps {t u : Table} (h : t.Overlaps u) : t.words ≠ u.words := by
  rcases (Table.overlaps_iff t u).mp h with (⟨rfl, rfl⟩ | ⟨rfl, rfl⟩) | ⟨rfl, rfl⟩ | ⟨rfl, rfl⟩
  all_goals decide

/-- Entries with one address are of one table, since tables that overlap have other widths. -/
theorem eq_of_raw (h : c.OnChip) (h' : c'.OnChip) (hraw : c.raw = c'.raw) : c = c' := by
  have haddress : c.site.address = c'.site.address := congrArg Prod.fst hraw
  have hwords : c.words = c'.words := congrArg Prod.snd hraw
  have hsite : c.site = c'.site := by
    by_contra hne
    have hon : c.site.OnChip := h.1
    have hon' : c'.site.OnChip := h'.1
    have hpos := c.words_pos
    have hpos' := c'.words_pos
    have hapart := Site.apart_of_not_crosses hon hon' hne fun hcross =>
      words_ne_of_overlaps hcross (by rw [← h.2, ← h'.2, hwords])
    rcases hapart with hlt | hlt <;> omega
  obtain ⟨t, i, ws⟩ := c
  obtain ⟨u, j, ws'⟩ := c'
  cases hsite
  cases hwords
  rfl

theorem eq_of_map_raw {told told' : List Command} (h : ∀ c ∈ told, c.OnChip)
    (h' : ∀ c ∈ told', c.OnChip) (hraw : told.map raw = told'.map raw) : told = told' := by
  induction told generalizing told' with
  | nil => exact (List.map_eq_nil_iff.mp hraw.symm).symm
  | cons c told ih =>
      obtain ⟨c', told', rfl, hc, hrest⟩ := List.map_eq_cons_iff.mp hraw.symm
      rw [eq_of_raw (h c List.mem_cons_self) (h' c' List.mem_cons_self) hc.symm,
        ih (fun d hd => h d (List.mem_cons_of_mem _ hd))
          (fun d hd => h' d (List.mem_cons_of_mem _ hd)) hrest.symm]

end Command

/-! ### What was written -/

section told

variable {δ : Type} {told told' : List Command} {bus bus' bus'' : Taped δ}

/-- What was written between two states are these commands. -/
structure Told (told : List Command) (bus bus' : Taped δ) : Prop where
  onChip : ∀ c ∈ told, c.OnChip
  written : bus'.written = bus.written ++ told.map Command.raw

namespace Told

theorem refl (bus : Taped δ) : Told [] bus bus := ⟨nofun, (List.append_nil _).symm⟩

theorem append (h : Told told bus bus') (h' : Told told' bus' bus'') :
    Told (told ++ told') bus bus'' where
  onChip c hc := (List.mem_append.mp hc).elim (h.onChip c) (h'.onChip c)
  written := by rw [h'.written, h.written, List.map_append, List.append_assoc]

theorem unique (h : Told told bus bus') (h' : Told told' bus bus') : told' = told :=
  Command.eq_of_map_raw h'.onChip h.onChip
    (List.append_cancel_left (h'.written.symm.trans h.written))

end Told

variable [Bus δ]

/-- A write that is not refused is of an entry that there is. -/
theorem Table.write_told (t : Table) (index : Nat) (words : List UInt32) (bus : Taped δ) :
    Ends (t.write index words) bus (fun _ bus' => Told [⟨t, index, words⟩] bus bus')
      fun _ _ => True := by
  by_cases hi : index < t.depth
  · by_cases hw : words.length = t.words
    · refine Ends.of_eq (Ends.mapError ((Taped.write_ends (t.address index) words bus).mono ?_
        fun _ _ _ => trivial)) (congrFun (t.write_eq hi hw) bus)
      exact fun _ _ hwritten => ⟨fun c hc => by cases List.mem_singleton.mp hc; exact ⟨hi, hw⟩,
        hwritten⟩
    · exact Operation.ends_error (by rw [write, if_neg (not_not_intro hi), if_pos hw]) trivial
  · exact Operation.ends_error (by rw [write, if_pos hi]) trivial

/-- Two writes that belong together: if both are taken, nothing is undone. -/
theorem Table.writePair_told {t u : Table} {i j : Nat} {words ws : List UInt32} {bus : Taped δ}
    {op : Operation (Taped δ) Unit} (undo : Operation (Taped δ) Unit)
    (herror : ∀ e bus', t.write i words bus = .error e bus' → op bus = .error e bus')
    (hok : ∀ a bus', t.write i words bus = .ok a bus' →
      op bus = Operation.orUndo (u.write j ws) undo bus') :
    Ends op bus (fun _ bus' => Told [⟨t, i, words⟩, ⟨u, j, ws⟩] bus bus') fun _ _ => True := by
  cases hb : t.write i words bus with
  | error e bus' => exact Operation.ends_error (herror e bus' hb) trivial
  | ok a bus' =>
      have hfirst := (t.write_told i words bus).of_ok hb
      refine Ends.of_eq (Ends.orUndo ((u.write_told j ws bus').mono ?_ ?_)) (hok a bus' hb)
      · exact fun _ _ hsecond => hfirst.append hsecond
      · exact fun _ _ _ => Operation.ends_of_forall (fun _ _ => trivial) fun _ _ => trivial

end told

/-! ### What was told of an entry -/

/-- What was told of a site last. -/
def last? (told : List Command) (s : Site) : Option (List UInt32) :=
  (told.filter (·.site = s)).getLast?.map Command.words

theorem last?_concat (told : List Command) (c : Command) (s : Site) :
    last? (told ++ [c]) s = if c.site = s then some c.words else last? told s := by
  rw [last?, List.filter_append]
  by_cases hs : c.site = s
  · simp [hs]
  · simp [hs, last?]

theorem last?_eq_none_of_table {told : List Command} {t : Table} (h : ∀ c ∈ told, c.table ≠ t)
    (i : Nat) : last? told (.entry t i) = none := by
  have hnone : told.filter (·.site = .entry t i) = [] := by
    refine List.filter_eq_nil_iff.mpr fun c hc hsite => ?_
    cases of_decide_eq_true hsite
    exact h c hc rfl
  rw [last?, hnone]
  rfl

namespace Image

variable {W : Image}

/-- The image once commands were carried out. -/
def tell (W : Image) (told : List Command) : Image := told.foldl (fun W c => W.set c.site c.words) W

theorem tell_append (told told' : List Command) : W.tell (told ++ told') = (W.tell told).tell told' :=
  List.foldl_append

/-- An entry has the words that were told of it last, and those that it had if nothing was. -/
theorem tell_iff (told : List Command) (s : Site) (ws : List UInt32) :
    W.tell told s ws ↔ (last? told s).elim (W s ws) (ws = ·) := by
  induction told using List.reverseRecOn with
  | nil => exact Iff.rfl
  | append_singleton told c ih =>
      rw [tell_append, last?_concat]
      change (W.tell told).set c.site c.words s ws ↔ _
      by_cases hs : c.site = s
      · rw [if_pos hs, ← hs, set_self]
        rfl
      · rw [if_neg hs, set_of_ne (Ne.symm hs), ih]

end Image

end ControlPlane
