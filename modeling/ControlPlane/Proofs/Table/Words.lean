import ControlPlane.Bits
import Mathlib.Logic.Basic

/-! # Fields of word arrays, bit by bit

A field is read and written through the number that an array spells.  Here the same is said of the words
themselves.

* **Bits.**  `Words.bit` looks one bit up in the word that holds it.  An array is its bits and its length
  (`Words.ext_bit`), a field has the bits from its place on (`Words.testBit_getField`), and writing it
  replaces those and no others (`Words.bit_setField`).
* **Bit by bit.**  A field can be read and written one bit after the other, wherever it crosses from word to
  word (`Words.getField_eq_gathered`, `Words.setField_eq_scattered`).
* **Laws.**  `Words.field_laws`: what reading and writing of fields that lie apart, or side by side, have to
  do with each other. -/

namespace ControlPlane

namespace Bits

/-- A field is made of its lower bits and, above them, its higher ones. -/
theorem get_add (n lo low high : Nat) :
    get n lo (low + high) = get n lo low + get n (lo + low) high <<< low := by
  rw [get, get, get, Nat.pow_add 2 low high, Nat.mod_mul, Nat.div_div_eq_div_mul, ← Nat.pow_add,
    Nat.shiftLeft_eq, Nat.mul_comm]

end Bits

namespace Words

variable {words written : List UInt32} {lo width v i j : Nat} {b : Bool}

/-! ### Bits of an array -/

/-- Bit `i` of an array, in the word that holds it. -/
def bit (words : List UInt32) (i : Nat) : Bool := (words.getD (i / 32) 0).toNat.testBit (i % 32)

theorem testBit_toNat (words : List UInt32) (i : Nat) : (toNat words).testBit i = bit words i := by
  induction words generalizing i with
  | nil => simp [toNat, bit]
  | cons w ws ih =>
      rw [toNat, Nat.add_comm, Nat.testBit_two_pow_mul_add _ w.toNat_lt]
      by_cases hi : i < 32
      · rw [if_pos hi, bit, Nat.div_eq_of_lt hi, Nat.mod_eq_of_lt hi, List.getD_cons_zero]
      · obtain ⟨k, rfl⟩ := Nat.exists_eq_add_of_le (Nat.le_of_not_lt hi)
        rw [if_neg hi, Nat.add_sub_cancel_left, ih, bit, bit, Nat.add_mod_left,
          Nat.add_div_left k (by decide), List.getD_cons_succ]

theorem toNat_lt (words : List UInt32) : toNat words < 2 ^ (32 * words.length) := by
  induction words with
  | nil => exact Nat.one_pos
  | cons w ws ih =>
      have hw : w.toNat < 2 ^ 32 := w.toNat_lt
      rw [toNat, List.length_cons, Nat.mul_succ, Nat.add_comm _ 32, Nat.pow_add]
      calc w.toNat + 2 ^ 32 * toNat ws
          < 2 ^ 32 + 2 ^ 32 * toNat ws := Nat.add_lt_add_right hw _
        _ = 2 ^ 32 * (toNat ws + 1) := by rw [Nat.mul_succ, Nat.add_comm]
        _ ≤ 2 ^ 32 * 2 ^ (32 * ws.length) := Nat.mul_le_mul_left _ ih

theorem ofNat_toNat (words : List UInt32) : ofNat words.length (toNat words) = words := by
  induction words with
  | nil => rfl
  | cons w ws ih =>
      have hw : w.toNat < 2 ^ 32 := w.toNat_lt
      have hlow : UInt32.ofNat (w.toNat + 2 ^ 32 * toNat ws) = w := by
        apply UInt32.toNat.inj
        rw [UInt32.toNat_ofNat', Nat.add_mul_mod_self_left, Nat.mod_eq_of_lt hw]
      have hhigh : (w.toNat + 2 ^ 32 * toNat ws) / 2 ^ 32 = toNat ws := by
        rw [Nat.add_mul_div_left _ _ (by decide), Nat.div_eq_of_lt hw, Nat.zero_add]
      rw [List.length_cons, toNat, ofNat, hlow, hhigh, ih]

/-- An array is its bits and its length. -/
theorem ext_bit (hl : written.length = words.length) (h : ∀ i, bit written i = bit words i) :
    written = words := by
  have hnum : toNat written = toNat words :=
    Nat.eq_of_testBit_eq fun i => by rw [testBit_toNat, testBit_toNat, h]
  rw [← ofNat_toNat written, hl, hnum, ofNat_toNat]

theorem bit_of_length_le (h : 32 * words.length ≤ i) : bit words i = false := by
  rw [← testBit_toNat]
  exact Nat.testBit_lt_two_pow (Nat.lt_of_lt_of_le (toNat_lt words) (Nat.pow_le_pow_right (by decide) h))

/-! ### Reading and writing -/

theorem getField_of_reaches (h : Reaches words lo width) :
    getField words lo width = some (Bits.get (toNat words) lo width) := if_pos h

theorem testBit_getField (h : getField words lo width = some v) (i : Nat) :
    v.testBit i = (decide (i < width) && bit words (lo + i)) := by
  unfold getField at h
  split at h
  · cases h
    rw [Bits.testBit_get, testBit_toNat]
  · cases h

theorem length_setField (h : setField words lo width v = some written) : written.length = words.length := by
  unfold setField at h
  split at h
  · cases h
    exact length_ofNat _ _
  · cases h

theorem exists_setField (h : Reaches words lo width) (v : Nat) :
    ∃ written, setField words lo width v = some written := ⟨_, if_pos h⟩

/-- Writing a field replaces its bits and no others. -/
theorem bit_setField (h : setField words lo width v = some written) (i : Nat) :
    bit written i = if lo ≤ i ∧ i < lo + width then v.testBit (i - lo) else bit words i := by
  unfold setField at h
  split at h
  · next hreaches =>
      cases h
      rw [← testBit_toNat, toNat_ofNat, Nat.testBit_mod_two_pow, Bits.testBit_put, testBit_toNat]
      by_cases hi : i < 32 * words.length
      · rw [decide_eq_true hi, Bool.true_and]
      · -- past the end there is no bit of the field and none of the array
        have hout : ¬ (lo ≤ i ∧ i < lo + width) := by
          obtain ⟨-, hnone | hend⟩ := hreaches <;> omega
        rw [decide_eq_false hi, Bool.false_and, if_neg hout, bit_of_length_le (Nat.le_of_not_lt hi)]
  · cases h

/-- A field is read off the bits at its place. -/
theorem getField_congr (hl : written.length = words.length)
    (h : ∀ i, lo ≤ i → i < lo + width → bit written i = bit words i) :
    getField written lo width = getField words lo width := by
  have hreaches : Reaches written lo width ↔ Reaches words lo width := by rw [Reaches, Reaches, hl]
  by_cases hin : Reaches words lo width
  · rw [getField_of_reaches hin, getField_of_reaches (hreaches.mpr hin), Option.some.injEq]
    apply Nat.eq_of_testBit_eq
    intro i
    rw [Bits.testBit_get, Bits.testBit_get, testBit_toNat, testBit_toNat]
    by_cases hi : i < width
    · rw [h (lo + i) (Nat.le_add_right lo i) (Nat.add_lt_add_left hi lo)]
    · rw [decide_eq_false hi, Bool.false_and, Bool.false_and]
  · rw [getField, getField, if_neg hin, if_neg (mt hreaches.mp hin)]

/-! ### One bit after the other -/

/-- An array with one of its bits set or cleared, in the word that holds it. -/
def setBit (words : List UInt32) (i : Nat) (b : Bool) : List UInt32 :=
  let mask : UInt32 := 1 <<< UInt32.ofNat (i % 32)
  words.modify (i / 32) fun w => if b then w ||| mask else w &&& ~~~mask

/-- An array with the lowest `count` bits of `v` set or cleared from bit `lo` on, one after the other. -/
def scattered (words : List UInt32) (lo v : Nat) : Nat → List UInt32
  | 0 => words
  | count + 1 => setBit (scattered words lo v count) (lo + count) (v.testBit count)

/-- The number that `count` bits from bit `lo` on make, one added after the other. -/
def gathered (words : List UInt32) (lo : Nat) : Nat → Nat
  | 0 => 0
  | count + 1 => gathered words lo count ||| (bit words (lo + count)).toNat <<< count

theorem toNat_mask (h : j < 32) : (1 <<< UInt32.ofNat j : UInt32).toNat = 2 ^ j := by
  revert j
  decide

theorem testBit_masked {w : UInt32} (hi : i < 32) (hj : j < 32) :
    (if b then w ||| 1 <<< UInt32.ofNat i else w &&& ~~~(1 <<< UInt32.ofNat i)).toNat.testBit j =
      if j = i then b else w.toNat.testBit j := by
  have hmask : 2 ^ i < 2 ^ 32 := Nat.pow_lt_pow_right (by decide) hi
  cases b with
  | true =>
      rw [if_pos rfl, UInt32.toNat_or, toNat_mask hi, Nat.testBit_or, Nat.testBit_two_pow]
      by_cases h : j = i
      · rw [if_pos h, decide_eq_true h.symm, Bool.or_true]
      · rw [if_neg h, decide_eq_false (Ne.symm h), Bool.or_false]
  | false =>
      have hnot : (~~~(1 <<< UInt32.ofNat i) : UInt32).toNat = 2 ^ 32 - (2 ^ i + 1) := by
        rw [UInt32.toNat_not, toNat_mask hi, UInt32.size]
        omega
      rw [if_neg Bool.false_ne_true, UInt32.toNat_and, hnot, Nat.testBit_and,
        Nat.testBit_two_pow_sub_succ hmask, Nat.testBit_two_pow, decide_eq_true hj, Bool.true_and]
      by_cases h : j = i
      · rw [if_pos h, decide_eq_true h.symm, Bool.not_true, Bool.and_false]
      · rw [if_neg h, decide_eq_false (Ne.symm h), Bool.not_false, Bool.and_true]

@[simp] theorem length_setBit (words : List UInt32) (i : Nat) (b : Bool) :
    (setBit words i b).length = words.length := List.length_modify ..

theorem bit_setBit (h : i < 32 * words.length) (b : Bool) (j : Nat) :
    bit (setBit words i b) j = if j = i then b else bit words j := by
  rw [bit, setBit, List.getD_eq_getElem?_getD, List.getElem?_modify]
  by_cases hword : i / 32 = j / 32
  · have hin : j / 32 < words.length := by omega
    have hsame : j % 32 = i % 32 ↔ j = i := by omega
    rw [List.getElem?_eq_getElem hin, Option.map_eq_map, Option.map_some, Option.getD_some, if_pos hword,
      testBit_masked (Nat.mod_lt _ (by decide)) (Nat.mod_lt _ (by decide)), bit,
      List.getD_eq_getElem?_getD, List.getElem?_eq_getElem hin, Option.getD_some]
    simp only [hsame]
  · have hne : j ≠ i := fun h => hword (h ▸ rfl)
    rw [if_neg hne, bit, List.getD_eq_getElem?_getD]
    simp only [if_neg hword, Option.map_eq_map, Option.map_id']

@[simp] theorem length_scattered (words : List UInt32) (lo v count : Nat) :
    (scattered words lo v count).length = words.length := by
  induction count with
  | zero => rfl
  | succ count ih => rw [scattered, length_setBit, ih]

theorem bit_scattered {count : Nat} (h : lo + count ≤ 32 * words.length) (v i : Nat) :
    bit (scattered words lo v count) i =
      if lo ≤ i ∧ i < lo + count then v.testBit (i - lo) else bit words i := by
  induction count with
  | zero => rw [scattered, if_neg (by omega)]
  | succ count ih =>
      rw [scattered, bit_setBit (by rw [length_scattered]; omega), ih (by omega)]
      by_cases hi : i = lo + count
      · rw [if_pos hi, if_pos (by omega), hi, Nat.add_sub_cancel_left]
      · rw [if_neg hi]
        exact if_congr (by omega) rfl rfl

theorem testBit_gathered (words : List UInt32) (lo count i : Nat) :
    (gathered words lo count).testBit i = (decide (i < count) && bit words (lo + i)) := by
  induction count with
  | zero => rw [gathered, Nat.zero_testBit, decide_eq_false (Nat.not_lt_zero i), Bool.false_and]
  | succ count ih =>
      rw [gathered, Nat.testBit_or, ih, Nat.testBit_shiftLeft, Nat.testBit_bool_toNat]
      rcases Nat.lt_trichotomy i count with hi | rfl | hi
      · simp [hi, Nat.lt_succ_of_lt hi, Nat.not_le_of_lt hi]
      · simp
      · have hbelow : ¬ i < count := Nat.lt_asymm hi
        have habove : ¬ i < count + 1 := Nat.not_lt_of_le hi
        have hlast : i - count ≠ 0 := Nat.sub_ne_zero_of_lt hi
        simp [hbelow, habove, hlast]

theorem setField_eq_scattered (h : width ≤ 128) (hin : lo + width ≤ 32 * words.length) (v : Nat) :
    setField words lo width v = some (scattered words lo v width) := by
  obtain ⟨written, hset⟩ := exists_setField ⟨h, .inr hin⟩ v
  rw [hset, Option.some.injEq]
  apply ext_bit
  · rw [length_setField hset, length_scattered]
  · intro i
    rw [bit_setField hset, bit_scattered hin]

theorem getField_eq_gathered (h : width ≤ 128) (hin : lo + width ≤ 32 * words.length) :
    getField words lo width = some (gathered words lo width) := by
  have hreaches : Reaches words lo width := ⟨h, .inr hin⟩
  have hget := getField_of_reaches hreaches
  rw [hget, Option.some.injEq]
  apply Nat.eq_of_testBit_eq
  intro i
  rw [testBit_getField hget, testBit_gathered]

/-! ### Laws -/

/-- No bit is in both of two places. -/
def Apart (lo width lo' width' : Nat) : Prop :=
  ∀ i, lo ≤ i → i < lo + width → lo' ≤ i → ¬ i < lo' + width'

variable {lo' width' v' : Nat}

/-- Writing a field leaves every field apart from it alone. -/
theorem getField_of_apart (h : setField words lo width v = some written) (ha : Apart lo width lo' width') :
    getField written lo' width' = getField words lo' width' := by
  apply getField_congr (length_setField h)
  intro i hlo' hi'
  rw [bit_setField h, if_neg fun hi => ha i hi.1 hi.2 hlo' hi']

theorem getField_setField (h : setField words lo width v = some written) (hr : Reaches words lo width) :
    getField written lo width = some (v % 2 ^ width) := by
  have hwritten : Reaches written lo width := by rwa [Reaches, length_setField h]
  have hget := getField_of_reaches hwritten
  rw [hget, Option.some.injEq]
  apply Nat.eq_of_testBit_eq
  intro i
  rw [testBit_getField hget, bit_setField h, Nat.testBit_mod_two_pow]
  by_cases hi : i < width
  · rw [if_pos ⟨Nat.le_add_right lo i, Nat.add_lt_add_left hi lo⟩, Nat.add_sub_cancel_left]
  · rw [decide_eq_false hi, Bool.false_and, Bool.false_and]

/-- The order in which fields that lie apart are written does not matter. -/
theorem setField_comm {other both both' : List UInt32} (ha : Apart lo width lo' width')
    (h : setField words lo width v = some written) (hthen : setField written lo' width' v' = some both)
    (h' : setField words lo' width' v' = some other) (hthen' : setField other lo width v = some both') :
    both = both' := by
  apply ext_bit
  · rw [length_setField hthen, length_setField h, length_setField hthen', length_setField h']
  · intro i
    rw [bit_setField hthen, bit_setField h, bit_setField hthen', bit_setField h']
    by_cases hi : lo ≤ i ∧ i < lo + width
    · have hi' : ¬ (lo' ≤ i ∧ i < lo' + width') := fun hi' => ha i hi.1 hi.2 hi'.1 hi'.2
      rw [if_neg hi', if_pos hi, if_pos hi]
    · rw [if_neg hi, if_neg hi]

/-- Writing what a field holds changes nothing. -/
theorem setField_getField (hget : getField words lo width = some v)
    (hset : setField words lo width v = some written) : written = words := by
  apply ext_bit (length_setField hset)
  intro i
  rw [bit_setField hset]
  split
  · next hi =>
      rw [testBit_getField hget, decide_eq_true (Nat.sub_lt_left_of_lt_add hi.1 hi.2), Bool.true_and,
        Nat.add_sub_cancel' hi.1]
  · rfl

/-- **Laws of fields.**  Where an array reaches a field of at most 128 bits, the field can be read and
written, one bit after the other, and keeps what is written cut to its width.  Every other bit stays, and so
every field apart from it.  Fields that lie apart can be written in either order; writing what a field holds
changes nothing; and a field is the sum of its lower part and of its higher part moved up. -/
theorem field_laws (words : List UInt32) (lo width : Nat) (hwidth : width ≤ 128)
    (hin : lo + width ≤ 32 * words.length) (v : Nat) :
    ∃ written, setField words lo width v = some written ∧
      written = scattered words lo v width ∧
      getField words lo width = some (gathered words lo width) ∧
      getField written lo width = some (v % 2 ^ width) ∧
      (written.length = words.length ∧
        ∀ i, ¬ (lo ≤ i ∧ i < lo + width) → bit written i = bit words i) ∧
      (∀ lo' width', Apart lo width lo' width' →
        getField written lo' width' = getField words lo' width') ∧
      (∀ lo' width' v', width' ≤ 128 → lo' + width' ≤ 32 * words.length → Apart lo width lo' width' →
        ∃ other both, setField words lo' width' v' = some other ∧
          setField written lo' width' v' = some both ∧ setField other lo width v = some both) ∧
      (getField words lo width).bind (setField words lo width) = some words ∧
      ∀ low high, low + high = width → ∃ a b, getField words lo low = some a ∧
        getField words (lo + low) high = some b ∧ getField words lo width = some (a + b <<< low) := by
  have hreaches : Reaches words lo width := ⟨hwidth, .inr hin⟩
  have hget := getField_of_reaches hreaches
  obtain ⟨written, hset⟩ := exists_setField hreaches v
  have hl := length_setField hset
  refine ⟨written, hset, ?_, getField_eq_gathered hwidth hin, getField_setField hset hreaches,
    ⟨hl, fun i hi => by rw [bit_setField hset, if_neg hi]⟩, fun _ _ => getField_of_apart hset, ?_, ?_, ?_⟩
  · exact Option.some.inj (hset.symm.trans (setField_eq_scattered hwidth hin v))
  · intro lo' width' v' hwidth' hin' ha
    obtain ⟨other, hother⟩ := exists_setField ⟨hwidth', .inr hin'⟩ v'
    have hthen : Reaches written lo' width' := ⟨hwidth', .inr (hl ▸ hin')⟩
    have hthen' : Reaches other lo width := ⟨hwidth, .inr (length_setField hother ▸ hin)⟩
    obtain ⟨both, hboth⟩ := exists_setField hthen v'
    obtain ⟨both', hboth'⟩ := exists_setField hthen' v
    exact ⟨other, both, hother, hboth, setField_comm ha hset hboth hother hboth' ▸ hboth'⟩
  · obtain ⟨same, hsame⟩ := exists_setField hreaches (Bits.get (toNat words) lo width)
    rw [hget, Option.bind_some, hsame, setField_getField hget hsame]
  · rintro low high rfl
    have hlow : Reaches words lo low := ⟨by omega, .inr (by omega)⟩
    have hhigh : Reaches words (lo + low) high := ⟨by omega, .inr (by omega)⟩
    exact ⟨_, _, getField_of_reaches hlow, getField_of_reaches hhigh, by rw [hget, Bits.get_add]⟩

/-- A field across the border of two words. -/
theorem field_laws_crossing :
    ∃ written, setField [0xc0000000, 0xa] 30 4 0x3f = some written ∧ getField written 30 4 = some 0xf ∧
      getField written 0 30 = some 0 := by
  obtain ⟨written, hset, -, -, hget, -, hapart, -⟩ :=
    field_laws [0xc0000000, 0xa] 30 4 (by decide) (by decide) 0x3f
  refine ⟨written, hset, hget, ?_⟩
  rw [hapart 0 30 fun i h _ _ => by omega]
  rfl

end Words

end ControlPlane
