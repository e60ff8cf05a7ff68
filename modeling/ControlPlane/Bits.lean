/-! # Fields of bits in words

Bit `n` of a word array is bit `n % 32` of word `n / 32`.  An array is therefore one natural
number written in base `2 ^ 32`, lowest word first, and a field is a run of that number's binary
digits.

* **Words.**  `Words.toNat` reads an array as a number, `Words.ofNat` writes a number as an array
  of a given length.
* **Fields of a number.**  `Bits.get` takes the `width` bits from bit `lo` on; `Bits.put`
  replaces them and keeps all others.
* **Fields of an array.**  `Words.getField` and `Words.setField` do the same to an array.  They
  are partial: a field that is wider than 128 bits or that reaches past the last word gives
  `none`. -/

-- A power is the same function in every module, also where monoids have powers.
attribute [default_instance 10100, instance (1100)] instPowNat

namespace ControlPlane

namespace Bits

/-- The `width` bits of `n` from bit `lo` on, as a number. -/
def get (n lo width : Nat) : Nat := n / 2 ^ lo % 2 ^ width

/-- `n` with its `width` bits from bit `lo` on replaced by the lowest `width` bits of `v`. -/
def put (n lo width v : Nat) : Nat :=
  n % 2 ^ lo + 2 ^ lo * (v % 2 ^ width + 2 ^ width * (n / 2 ^ (lo + width)))

/-- Whether bit `lo` of `n` is set. -/
def flag (n lo : Nat) : Bool := get n lo 1 == 1

def putFlag (n lo : Nat) (b : Bool) : Nat := put n lo 1 b.toNat

theorem get_lt (n lo width : Nat) : get n lo width < 2 ^ width :=
  Nat.mod_lt _ (Nat.two_pow_pos width)

/-- A field reads back what was put, cut to its width. -/
theorem get_put_self (n lo width v : Nat) : get (put n lo width v) lo width = v % 2 ^ width := by
  have hpos : 0 < 2 ^ lo := Nat.two_pow_pos lo
  rw [get, put, Nat.add_mul_div_left _ _ hpos, Nat.div_eq_of_lt (Nat.mod_lt _ hpos), Nat.zero_add,
    Nat.add_mul_mod_self_left, Nat.mod_mod]

/-! ### Bit by bit -/

theorem testBit_get (n lo width i : Nat) :
    (get n lo width).testBit i = (decide (i < width) && n.testBit (lo + i)) := by
  rw [get, Nat.testBit_mod_two_pow, Nat.testBit_div_two_pow, Nat.add_comm]

theorem testBit_put (n lo width v i : Nat) :
    (put n lo width v).testBit i =
      if lo ≤ i ∧ i < lo + width then v.testBit (i - lo) else n.testBit i := by
  have hlow : n % 2 ^ lo < 2 ^ lo := Nat.mod_lt _ (Nat.two_pow_pos lo)
  have hmid : v % 2 ^ width < 2 ^ width := Nat.mod_lt _ (Nat.two_pow_pos width)
  rw [put, Nat.add_comm (n % 2 ^ lo), Nat.testBit_two_pow_mul_add _ hlow,
    Nat.add_comm (v % 2 ^ width), Nat.testBit_two_pow_mul_add _ hmid]
  by_cases h1 : i < lo
  · rw [if_pos h1, if_neg (by omega), Nat.testBit_mod_two_pow, decide_eq_true h1, Bool.true_and]
  · rw [if_neg h1]
    by_cases h2 : i - lo < width
    · rw [if_pos h2, if_pos (by omega), Nat.testBit_mod_two_pow, decide_eq_true h2,
        Bool.true_and]
    · rw [if_neg h2, if_neg (by omega), Nat.testBit_div_two_pow]
      congr 1
      omega

theorem flag_eq_testBit (n lo : Nat) : flag n lo = n.testBit lo := by
  rw [flag, get, Nat.pow_one, Nat.testBit_eq_decide_div_mod_eq, Bool.beq_eq_decide_eq]

theorem testBit_putFlag (n lo : Nat) (b : Bool) (i : Nat) :
    (putFlag n lo b).testBit i = if lo = i then b else n.testBit i := by
  rw [putFlag, testBit_put]
  by_cases h : lo = i
  · rw [if_pos (by omega), if_pos h, h, Nat.sub_self]
    cases b <;> rfl
  · rw [if_neg (by omega), if_neg h]

/-- What is put into a field leaves every field apart from it alone. -/
theorem get_put_of_disjoint (n : Nat) {lo width lo' width' : Nat} (v : Nat)
    (h : lo + width ≤ lo' ∨ lo' + width' ≤ lo) :
    get (put n lo width v) lo' width' = get n lo' width' := by
  apply Nat.eq_of_testBit_eq
  intro i
  rw [testBit_get, testBit_get, testBit_put]
  by_cases hi : i < width'
  · rw [if_neg (by omega)]
  · rw [decide_eq_false hi, Bool.false_and, Bool.false_and]

/-- Putting a field twice is putting it once. -/
theorem put_put_self (n lo width v : Nat) : put (put n lo width v) lo width v = put n lo width v := by
  apply Nat.eq_of_testBit_eq
  intro i
  rw [testBit_put]
  split
  · rw [testBit_put, if_pos ‹_›]
  · rfl

end Bits

namespace Words

/-- The number that an array of words spells, lowest word first. -/
def toNat : List UInt32 → Nat
  | [] => 0
  | w :: ws => w.toNat + 2 ^ 32 * toNat ws

/-- The lowest `count` words of a number, lowest word first. -/
def ofNat : Nat → Nat → List UInt32
  | 0, _ => []
  | count + 1, n => UInt32.ofNat n :: ofNat count (n / 2 ^ 32)

@[simp] theorem length_ofNat (count n : Nat) : (ofNat count n).length = count := by
  induction count generalizing n with
  | zero => rfl
  | succ count ih => simp [ofNat, ih]

/-- The array that spells a number spells it back, up to the words it has. -/
theorem toNat_ofNat (count n : Nat) : toNat (ofNat count n) = n % 2 ^ (32 * count) := by
  induction count generalizing n with
  | zero => simp [ofNat, toNat, Nat.mod_one]
  | succ count ih =>
    have h : 2 ^ (32 * (count + 1)) = 2 ^ 32 * 2 ^ (32 * count) := by
      rw [← Nat.pow_add, Nat.mul_succ, Nat.add_comm]
    rw [ofNat, toNat, ih, h, Nat.mod_mul, UInt32.toNat_ofNat']

/-- A field can be reached in an array when it has at most 128 bits and ends inside the array. -/
def Reaches (words : List UInt32) (lo width : Nat) : Prop :=
  width ≤ 128 ∧ (width = 0 ∨ lo + width ≤ 32 * words.length)

instance (words : List UInt32) (lo width : Nat) : Decidable (Reaches words lo width) :=
  inferInstanceAs (Decidable (_ ∧ _))

/-- The field of `width` bits from bit `lo` on, or `none` if the array does not reach that far. -/
def getField (words : List UInt32) (lo width : Nat) : Option Nat :=
  if Reaches words lo width then some (Bits.get (toNat words) lo width) else none

/-- The array with the field of `width` bits from bit `lo` on set to `v`, cut to that width. -/
def setField (words : List UInt32) (lo width v : Nat) : Option (List UInt32) :=
  if Reaches words lo width then
    some (ofNat words.length (Bits.put (toNat words) lo width v))
  else
    none

end Words

end ControlPlane
