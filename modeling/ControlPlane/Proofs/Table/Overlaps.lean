import ControlPlane.Proofs.Table.Sites

/-! # Which sites share words

The entries of one table lie apart, and so do the tables, but for two pairs: the hash table of stations
runs into the traps, and the group descriptors run into the members (`Table.overlaps_iff`).  The words
of enabled lanes lie apart from all tables and from each other.

* **Apart.**  `Site.apart_of_not_crosses`: two sites of the chip lie apart unless they are entries of
  two tables that overlap.
* **Shared.**  `station_trap_apart_iff` and `group_member_apart_iff` say which entries of two tables that
  overlap share words. -/

namespace ControlPlane

namespace Table

/-- Whether the byte ranges of two tables have a byte in common. -/
def Overlaps (t u : Table) : Prop := t ≠ u ∧ t.span.1 < u.span.2 ∧ u.span.1 < t.span.2

instance (t u : Table) : Decidable (t.Overlaps u) := inferInstanceAs (Decidable (_ ∧ _ ∧ _))

theorem overlaps_iff (t u : Table) :
    t.Overlaps u ↔ (t = station ∧ u = trap ∨ t = trap ∧ u = station) ∨
      (t = group ∧ u = member ∨ t = member ∧ u = group) := by
  cases t <;> cases u <;> decide

theorem words_le_stride (t : Table) : 4 * t.words ≤ t.layout.stride := by
  cases t <;> decide

/-- An entry lies in the range of its table. -/
theorem span_of_lt (t : Table) {i : Nat} (h : i < t.depth) :
    t.span.1 ≤ t.address i ∧ t.address i + 4 * t.words ≤ t.span.2 := by
  have hmul : i * t.layout.stride ≤ (t.depth - 1) * t.layout.stride :=
    Nat.mul_le_mul_right _ (by omega)
  simp only [span, address]
  omega

/-- The words of enabled lanes are in no table. -/
theorem enables_outside (t : Table) {block : Nat} (h : (Site.enables block).OnChip) :
    (Site.enables block).address + 4 ≤ t.span.1 ∨ t.span.2 ≤ (Site.enables block).address := by
  have hall : ∀ b < Location.blockBases.length,
      (Site.enables b).address + 4 ≤ t.span.1 ∨ t.span.2 ≤ (Site.enables b).address := by
    cases t <;> decide
  exact hall block h

end Table

namespace Site

/-- Whether two sites are entries of tables that overlap. -/
def Crosses : Site → Site → Prop
  | entry t _, entry u _ => t.Overlaps u
  | _, _ => False

theorem apart_of_index_ne (t : Table) {i j : Nat} (h : i ≠ j) : (entry t i).Apart (entry t j) := by
  have hw := t.words_le_stride
  simp only [Apart, address, words, Table.address]
  rcases Nat.lt_or_gt_of_ne h with hlt | hlt
  · have hmul : (i + 1) * t.layout.stride ≤ j * t.layout.stride := Nat.mul_le_mul_right _ hlt
    rw [Nat.succ_mul] at hmul
    omega
  · have hmul : (j + 1) * t.layout.stride ≤ i * t.layout.stride := Nat.mul_le_mul_right _ hlt
    rw [Nat.succ_mul] at hmul
    omega

theorem enables_apart {b c : Nat} (hb : (enables b).OnChip) (hc : (enables c).OnChip) (h : b ≠ c) :
    (enables b).Apart (enables c) := by
  have hall : ∀ b < Location.blockBases.length, ∀ c < Location.blockBases.length, b ≠ c →
      (enables b).address + 4 ≤ (enables c).address ∨
        (enables c).address + 4 ≤ (enables b).address := by
    decide
  exact hall b hb c hc h

theorem apart_of_not_crosses {s u : Site} (hs : s.OnChip) (hu : u.OnChip) (hne : s ≠ u)
    (hc : ¬ s.Crosses u) : s.Apart u := by
  rcases s with ⟨t, i⟩ | b <;> rcases u with ⟨t', j⟩ | c
  · by_cases ht : t = t'
    · subst ht
      exact apart_of_index_ne t fun h => hne (h ▸ rfl)
    · have h1 := t.span_of_lt hs
      have h2 := t'.span_of_lt hu
      have hspan : ¬ (t.span.1 < t'.span.2 ∧ t'.span.1 < t.span.2) := fun h => hc ⟨ht, h⟩
      simp only [Apart, address, words]
      omega
  · have h1 := t.span_of_lt hs
    have h2 := t.enables_outside hu
    simp only [Apart, words]
    change t.address i + 4 * t.words ≤ _ ∨ _ ≤ t.address i
    omega
  · have h1 := t'.span_of_lt hu
    have h2 := t'.enables_outside hs
    simp only [Apart, words]
    change _ ≤ t'.address j ∨ t'.address j + 4 * t'.words ≤ _
    omega
  · exact enables_apart hs hu fun h => hne (h ▸ rfl)

/-- Only every second slot of a run of stations begins a trap, which takes one word of the next. -/
theorem station_trap_apart_iff {slot k : Nat} :
    (entry .station slot).Apart (entry .trap k) ↔
      slot ≠ 8192 + 2 * k ∧ slot ≠ 8192 + 2 * k + 1 := by
  simp only [Apart, address, words, Table.address, Table.words, Table.layout]
  omega

theorem group_member_apart_iff {id n : Nat} :
    (entry .group id).Apart (entry .member n) ↔ 2048 + n < 8 * id ∨ 8 * id + 7 ≤ 2048 + n := by
  simp only [Apart, address, words, Table.address, Table.words, Table.layout]
  omega

end Site

end ControlPlane
