import ControlPlane.Text.Numeral
import Mathlib.Data.List.Basic
import Mathlib.Data.List.Induction

/-! # What numerals spell

`Text.IsDigit` says which characters are digits, and `Text.Spells` which number digits spell, the highest
digit first.  Neither says how a numeral is read.

* **Reading.**  A run of digits is read as the number that it spells, and nothing else is read
  (`Text.unsigned?_eq_some_iff`).  Where signs are taken, a plus sign may stand in front
  (`Text.numeral?_eq_some_iff`).
* **Writing.**  The digits that a number is written with spell it (`Text.spells_toDigits`).  Decimal digits
  that do not begin with a zero are those that the number is written with (`Text.Spells.eq_toDigits`). -/

namespace ControlPlane.Text

/-- A character is the digit of a value: one of the ten, or a letter from `a` on, small or capital. -/
def IsDigit (base : Nat) (c : Char) (d : Nat) : Prop :=
  d < base ∧ (c = Nat.digitChar d ∨ c = (Nat.digitChar d).toUpper)

/-- A run of digits, the highest first, and the number that it spells. -/
inductive Spells (base : Nat) : List Char → Nat → Prop where
  | digit {c : Char} {d : Nat} (h : IsDigit base c d) : Spells base [c] d
  | concat {cs : List Char} {c : Char} {n d : Nat} (hcs : Spells base cs n) (h : IsDigit base c d) :
      Spells base (cs ++ [c]) (n * base + d)

variable {base n d : Nat} {c : Char} {cs : List Char}

/-! ### Reading -/

theorem digit?_digitChar (h : d < 16) :
    digit? 16 (Nat.digitChar d) = some d ∧ digit? 16 (Nat.digitChar d).toUpper = some d := by
  revert d
  decide

/-- The digit of a value above nine is a letter. -/
theorem toNat_digitChar_letter (h : d < 6) :
    (Nat.digitChar (d + 10)).toNat = 0x61 + d ∧ (Nat.digitChar (d + 10)).toUpper.toNat = 0x41 + d := by
  revert d
  decide

theorem digit?_eq_some_iff_digit?_sixteen (hb : base ≤ 16) :
    digit? base c = some d ↔ digit? 16 c = some d ∧ d < base := by
  simp only [digit?, Option.filter_eq_some_iff, decide_eq_true_eq]
  exact ⟨fun ⟨hv, hd⟩ => ⟨⟨hv, Nat.lt_of_lt_of_le hd hb⟩, hd⟩, fun ⟨⟨hv, _⟩, hd⟩ => ⟨hv, hd⟩⟩

theorem isDigit_of_digit? (h : digit? 16 c = some d) : IsDigit 16 c d := by
  simp only [digit?, Option.filter_eq_some_iff, decide_eq_true_eq] at h
  obtain ⟨hv, hd⟩ := h
  refine ⟨hd, ?_⟩
  split at hv
  · next hten =>
      left
      cases hv
      apply Char.toNat_inj.mp
      rw [Nat.toNat_digitChar_of_lt_ten (by omega)]
      omega
  · split at hv
    · next hcapital =>
        right
        cases hv
        apply Char.toNat_inj.mp
        rw [(toNat_digitChar_letter (by omega)).2]
        omega
    · split at hv
      · next hsmall =>
          left
          cases hv
          apply Char.toNat_inj.mp
          rw [(toNat_digitChar_letter (by omega)).1]
          omega
      · cases hv

theorem digit?_eq_some_iff (hb : base ≤ 16) : digit? base c = some d ↔ IsDigit base c d := by
  rw [digit?_eq_some_iff_digit?_sixteen hb]
  constructor
  · rintro ⟨hc, hd⟩
    exact ⟨hd, (isDigit_of_digit? hc).2⟩
  · rintro ⟨hd, hc⟩
    obtain ⟨hsmall, hcapital⟩ := digit?_digitChar (Nat.lt_of_lt_of_le hd hb)
    exact ⟨hc.elim (· ▸ hsmall) (· ▸ hcapital), hd⟩

theorem digits?_concat (acc : Nat) :
    digits? base acc (cs ++ [c]) =
      (digits? base acc cs).bind fun n => (digit? base c).map fun d => n * base + d := by
  induction cs generalizing acc with
  | nil => cases h : digit? base c <;> simp [digits?, h]
  | cons c' cs ih =>
      cases h : digit? base c' with
      | none => simp [digits?, h]
      | some d' => simp [digits?, h, ih]

theorem unsigned?_singleton : unsigned? base [c] = digit? base c := by
  cases h : digit? base c <;> simp [unsigned?, digits?, h]

theorem unsigned?_concat (hcs : cs ≠ []) :
    unsigned? base (cs ++ [c]) =
      (unsigned? base cs).bind fun n => (digit? base c).map fun d => n * base + d := by
  obtain ⟨first, rest, rfl⟩ := List.exists_cons_of_ne_nil hcs
  exact @digits?_concat base c (first :: rest) 0

theorem unsigned?_pair {c' : Char} :
    unsigned? base [c, c'] = (digit? base c).bind fun d => (digit? base c').map fun d' => d * base + d' := by
  rw [← unsigned?_singleton]
  exact unsigned?_concat (List.cons_ne_nil c [])

theorem Spells.ne_nil (h : Spells base cs n) : cs ≠ [] := by
  cases h <;> simp

/-- A text is read as a number exactly if it consists of digits that spell the number. -/
theorem unsigned?_eq_some_iff (hb : base ≤ 16) : unsigned? base cs = some n ↔ Spells base cs n := by
  constructor
  · intro h
    induction cs using List.reverseRecOn generalizing n with
    | nil => cases h
    | append_singleton cs c ih =>
        by_cases hcs : cs = []
        · subst hcs
          rw [List.nil_append, unsigned?_singleton, digit?_eq_some_iff hb] at h
          exact .digit h
        · rw [unsigned?_concat hcs, Option.bind_eq_some_iff] at h
          obtain ⟨high, hhigh, h⟩ := h
          rw [Option.map_eq_some_iff] at h
          obtain ⟨d, hd, rfl⟩ := h
          exact .concat (ih hhigh) ((digit?_eq_some_iff hb).mp hd)
  · intro h
    induction h with
    | digit hd => rw [unsigned?_singleton, (digit?_eq_some_iff hb).mpr hd]
    | concat hcs hd ih =>
        rw [unsigned?_concat hcs.ne_nil, ih, (digit?_eq_some_iff hb).mpr hd]
        rfl

/-- Every character of a numeral is a digit. -/
theorem Spells.isDigit (h : Spells base cs n) (hc : c ∈ cs) : ∃ d, IsDigit base c d := by
  induction h with
  | digit hd => exact ⟨_, List.mem_singleton.mp hc ▸ hd⟩
  | concat _ hd ih =>
      rcases List.mem_append.mp hc with hc | hc
      · exact ih hc
      · exact ⟨_, List.mem_singleton.mp hc ▸ hd⟩

/-- Digits spell one number. -/
theorem Spells.unique {m : Nat} (hb : base ≤ 16) (h : Spells base cs n) (h' : Spells base cs m) : n = m :=
  Option.some.inj (((unsigned?_eq_some_iff hb).mpr h).symm.trans ((unsigned?_eq_some_iff hb).mpr h'))

theorem not_spells_plus (hb : base ≤ 16) : ¬ Spells base ('+' :: cs) n := by
  intro h
  obtain ⟨d, hd⟩ := h.isDigit List.mem_cons_self
  have hnone : digit? base '+' = none := rfl
  rw [(digit?_eq_some_iff hb).mpr hd] at hnone
  cases hnone

/-- Digits that spell a number, with a plus sign in front of them at most, and only if signs are taken. -/
inductive Signed (signs : Bool) (base : Nat) : List Char → Nat → Prop where
  | bare {cs : List Char} {n : Nat} (h : Spells base cs n) : Signed signs base cs n
  | plus {cs : List Char} {n : Nat} (hs : signs = true) (h : Spells base cs n) : Signed signs base ('+' :: cs) n

/-- Numerals are read with a sign or without. -/
theorem numeral?_eq_some_iff {limit : Nat} (hb : base ≤ 16) :
    numeral? base limit cs = some n ↔ Signed true base cs n ∧ n < limit := by
  simp only [numeral?, Option.filter_eq_some_iff, decide_eq_true_eq, unsigned?_eq_some_iff hb]
  refine and_congr_left fun _ => ?_
  split
  · next rest =>
      refine ⟨.plus rfl, fun h => ?_⟩
      cases h with
      | bare h => exact absurd h (not_spells_plus hb)
      | plus _ h => exact h
  · next hnot =>
      refine ⟨.bare, fun h => ?_⟩
      cases h with
      | bare h => exact h
      | plus _ h => exact absurd rfl (hnot _)

/-! ### Writing -/

theorem isDigit_digitChar (h : d < base) : IsDigit base (Nat.digitChar d) d := ⟨h, .inl rfl⟩

/-- Decimal digits have no capitals. -/
theorem IsDigit.eq_digitChar (h : IsDigit 10 c d) : c = Nat.digitChar d := by
  obtain ⟨hd, hc | hc⟩ := h
  · exact hc
  · have hsame : ∀ d < 10, (Nat.digitChar d).toUpper = Nat.digitChar d := by decide
    rw [hc, hsame d hd]

/-- A number is spelled by the digits that it is written with. -/
theorem spells_toDigits (hb : 1 < base) (n : Nat) : Spells base (Nat.toDigits base n) n := by
  induction n using Nat.strongRecOn with
  | ind n ih =>
      by_cases hn : n < base
      · rw [Nat.toDigits_of_lt_base hn]
        exact .digit (isDigit_digitChar hn)
      · have hpos : 0 < base := Nat.lt_trans Nat.zero_lt_one hb
        have hlt : n / base < n := Nat.div_lt_self (by omega) hb
        have hspells := Spells.concat (ih _ hlt) (isDigit_digitChar (Nat.mod_lt n hpos))
        rwa [Nat.div_add_mod', ← Nat.toDigits_of_base_le hb (Nat.le_of_not_lt hn)] at hspells

/-- Nothing but zero is written with a zero in front. -/
theorem head?_toDigits_ne_zero (hb : 1 < base) (hn : 0 < n) : (Nat.toDigits base n).head? ≠ some '0' := by
  induction n using Nat.strongRecOn with
  | ind n ih =>
      by_cases hlt : n < base
      · rw [Nat.toDigits_of_lt_base hlt, List.head?_cons, ne_eq, Option.some.injEq, Nat.digitChar_eq_zero]
        exact Nat.ne_of_gt hn
      · have hle : base ≤ n := Nat.le_of_not_lt hlt
        rw [Nat.toDigits_of_base_le hb hle, List.head?_append_of_ne_nil _ (spells_toDigits hb _).ne_nil]
        exact ih _ (Nat.div_lt_self hn hb) (Nat.div_pos hle (Nat.lt_trans Nat.zero_lt_one hb))

/-- Decimal digits without a zero in front are those that their number is written with. -/
theorem Spells.eq_toDigits (h : Spells 10 cs n) (hzero : cs.head? ≠ some '0') : cs = Nat.toDigits 10 n := by
  induction h with
  | digit hd => rw [Nat.toDigits_of_lt_base hd.1, hd.eq_digitChar]
  | @concat cs c n d hcs hd ih =>
      rw [List.head?_append_of_ne_nil _ hcs.ne_nil] at hzero
      have hdigits := ih hzero
      have hpos : 0 < n := by
        apply Nat.pos_of_ne_zero
        rintro rfl
        rw [hdigits, Nat.toDigits_zero] at hzero
        exact hzero rfl
      rw [hdigits, hd.eq_digitChar, Nat.mul_comm, ← Nat.toDigits_of_lt_base hd.1,
        Nat.toDigits_append_toDigits (by decide) hpos hd.1]

end ControlPlane.Text
