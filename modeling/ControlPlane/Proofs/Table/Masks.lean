import ControlPlane.Table.Route
import Mathlib.Data.Nat.Bitwise

/-! # Masks of subnets

* **Bit by bit.**  The mask of a length has exactly that many highest bits (`Subnet.testBit_maskBits`).  So
  different lengths have different masks, and a longer mask has all bits of a shorter one.
* **By its runs.**  A route's length is read off its mask from both ends: the ones at its top and the zeros
  at its end cover all of it exactly if it is the mask of a length, and the ones are that length
  (`RouteEntry.contiguous?_eq_some_iff`). -/

namespace ControlPlane

namespace Subnet

theorem maskBits_lt (len : Nat) : maskBits len < 2 ^ 32 := by
  have : 0 < 2 ^ (32 - min len 32) := Nat.two_pow_pos _
  unfold maskBits
  omega

@[simp] theorem toNat_mask (len : Nat) : (mask len).toNat = maskBits len :=
  UInt32.toNat_ofNat_of_lt' (maskBits_lt len)

/-- The bits of a mask are the highest ones, as many as its length says. -/
theorem testBit_maskBits {len : Nat} (h : len ≤ 32) (i : Nat) :
    (maskBits len).testBit i = (decide (i < 32) && decide (32 - len ≤ i)) := by
  have hlow : 2 ^ (32 - len) - 1 < 2 ^ 32 :=
    Nat.lt_of_lt_of_le (Nat.sub_one_lt (Nat.two_pow_pos _).ne')
      (Nat.pow_le_pow_right (by decide) (Nat.sub_le 32 len))
  have hmask : maskBits len = 2 ^ 32 - (2 ^ (32 - len) - 1 + 1) := by
    rw [maskBits, Nat.min_eq_left h, Nat.sub_add_cancel (Nat.two_pow_pos _)]
  rw [hmask, Nat.testBit_two_pow_sub_succ hlow, Nat.testBit_two_pow_sub_one, ← decide_not,
    decide_eq_decide.mpr Nat.not_lt]

theorem testBit_maskBits_iff {len : Nat} (h : len ≤ 32) (i : Nat) :
    (maskBits len).testBit i = true ↔ i < 32 ∧ 32 - len ≤ i := by
  rw [testBit_maskBits h, Bool.and_eq_true, decide_eq_true_eq, decide_eq_true_eq]

theorem mask_inj {a b : Nat} (ha : a ≤ 32) (hb : b ≤ 32) : mask a = mask b ↔ a = b := by
  refine ⟨fun h => ?_, congrArg mask⟩
  have hbits : maskBits a = maskBits b := by rw [← toNat_mask, h, toNat_mask]
  have hle (len : Nat) : 2 ^ (32 - len) ≤ 2 ^ 32 :=
    Nat.pow_le_pow_right (by decide) (Nat.sub_le 32 len)
  have hpow : 2 ^ (32 - a) = 2 ^ (32 - b) := by
    have := hle a
    have := hle b
    rw [maskBits, maskBits, Nat.min_eq_left ha, Nat.min_eq_left hb] at hbits
    omega
  have hsub : 32 - a = 32 - b := Nat.pow_right_injective (Nat.le_refl 2) hpow
  omega

/-- A longer mask has every bit of a shorter one. -/
theorem mask_and_mask {a b : Nat} (h : a ≤ b) (hb : b ≤ 32) : mask a &&& mask b = mask a := by
  apply UInt32.toNat.inj
  apply Nat.eq_of_testBit_eq
  intro i
  rw [UInt32.toNat_and, Nat.testBit_and, toNat_mask, toNat_mask, testBit_maskBits (h.trans hb),
    testBit_maskBits hb]
  -- both have the bits from some place on, and the shorter one starts at the higher place
  by_cases hi : 32 - a ≤ i
  · rw [decide_eq_true hi, decide_eq_true (show 32 - b ≤ i by omega), Bool.and_self]
  · rw [decide_eq_false hi, Bool.and_false, Bool.false_and]

/-- A canonical subnet has those bits of its address that its mask has, and no others. -/
theorem testBit_canonical {addr : Ipv4} {len : Nat} (h : len ≤ 32) (i : Nat) :
    (canonical addr len h).addr.bits.toNat.testBit i =
      (decide (32 - len ≤ i) && addr.bits.toNat.testBit i) := by
  rw [canonical, UInt32.toNat_and, Nat.testBit_and, toNat_mask, testBit_maskBits h]
  by_cases hi : i < 32
  · rw [decide_eq_true hi, Bool.true_and, Bool.and_comm]
  · have hbeyond : addr.bits.toNat.testBit i = false :=
      Nat.testBit_lt_two_pow (Nat.lt_of_lt_of_le addr.bits.toNat_lt
        (Nat.pow_le_pow_right (by decide) (Nat.le_of_not_lt hi)))
    rw [hbeyond, Bool.false_and, Bool.and_false]

end Subnet

namespace RouteEntry

variable {m : BitVec 32}

/-- The leading ones are set. -/
theorem testBit_of_leadingOnes {i : Nat} (h : 32 - leadingOnes m ≤ i) (hi : i < 32) :
    m.toNat.testBit i = true := by
  have hlt : (~~~m).toNat < 2 ^ i :=
    Nat.lt_of_lt_of_le BitVec.toNat_lt_two_pow_sub_clz (Nat.pow_le_pow_right (by decide) h)
  have hnot : (~~~m).getLsbD i = false := Nat.testBit_lt_two_pow hlt
  rw [BitVec.getLsbD_not, decide_eq_true hi, Bool.true_and, Bool.not_eq_false'] at hnot
  exact hnot

/-- The bit below the leading ones is clear. -/
theorem testBit_below_leadingOnes (h : leadingOnes m < 32) :
    m.toNat.testBit (31 - leadingOnes m) = false := by
  have hne : ~~~m ≠ 0#32 := BitVec.clz_lt_iff_ne_zero.mp (BitVec.lt_def.mpr h)
  have hnot : (~~~m).getLsbD (31 - leadingOnes m) = true :=
    BitVec.getLsbD_true_clz_of_ne_zero (by decide) hne
  rw [BitVec.getLsbD_not, Bool.and_eq_true, Bool.not_eq_true'] at hnot
  exact hnot.2

/-- Ones and then zeros, with nothing between them, are the mask of a length. -/
theorem toNat_of_runs (h : 32 ≤ leadingOnes m + m.ctz.toNat) :
    m.toNat = Subnet.maskBits (leadingOnes m) := by
  apply Nat.eq_of_testBit_eq
  intro i
  rw [Subnet.testBit_maskBits (leadingOnes_le m)]
  by_cases hi : i < 32
  · by_cases hone : 32 - leadingOnes m ≤ i
    · rw [testBit_of_leadingOnes hone hi, decide_eq_true hi, decide_eq_true hone, Bool.and_self]
    · have hzero : m.getLsbD i = false := BitVec.getLsbD_false_of_lt_ctz (by omega)
      rw [BitVec.testBit_toNat, hzero, decide_eq_false hone, Bool.and_false]
  · have hbeyond : m.getLsbD i = false := BitVec.getLsbD_of_ge m i (Nat.le_of_not_lt hi)
    rw [BitVec.testBit_toNat, hbeyond, decide_eq_false hi, Bool.false_and]

section mask

variable {len : Nat} (h : len ≤ 32) (hm : m.toNat = Subnet.maskBits len)

include h hm

theorem leadingOnes_of_mask : leadingOnes m = len := by
  have hbit (i : Nat) : m.toNat.testBit i = true ↔ i < 32 ∧ 32 - len ≤ i := by
    rw [hm, Subnet.testBit_maskBits_iff h]
  apply Nat.le_antisymm
  · apply Nat.le_of_not_lt
    intro hlt
    have hle := leadingOnes_le m
    have hset := (hbit (31 - len)).mp (testBit_of_leadingOnes (by omega) (by omega))
    omega
  · apply Nat.le_of_not_lt
    intro hlt
    have hclear := testBit_below_leadingOnes (Nat.lt_of_lt_of_le hlt h)
    have hset := (hbit (31 - leadingOnes m)).mpr (by omega)
    rw [hclear] at hset
    cases hset

theorem trailingZeros_of_mask : 32 - len ≤ m.ctz.toNat := by
  by_cases hzero : m = 0#32
  · have hctz : (0#32).ctz.toNat = 32 := by decide +kernel
    rw [hzero, hctz]
    exact Nat.sub_le 32 len
  · -- the lowest bit that is set is one of the mask's
    have hone : m.toNat.testBit m.ctz.toNat = true := BitVec.getLsbD_true_ctz_of_ne_zero hzero
    rw [hm, Subnet.testBit_maskBits_iff h] at hone
    exact hone.2

end mask

/-- The runs of a mask cover it exactly if it is the mask of a length, and give that length. -/
theorem contiguous?_eq_some_iff {mask : Nat} (hmask : mask < 2 ^ 32) (len : { len : Nat // len ≤ 32 }) :
    contiguous? mask = some len ↔ mask = Subnet.maskBits len := by
  have hbits : (BitVec.ofNat 32 mask).toNat = mask := Nat.mod_eq_of_lt hmask
  simp only [contiguous?]
  constructor
  · intro h
    split at h
    · cases h
    · next hruns =>
        cases h
        rw [← toNat_of_runs (Nat.le_of_not_lt hruns), hbits]
  · intro h
    have hones := leadingOnes_of_mask len.2 (hbits.trans h)
    have hzeros := trailingZeros_of_mask len.2 (hbits.trans h)
    have hruns : ¬ leadingOnes (BitVec.ofNat 32 mask) + (BitVec.ofNat 32 mask).ctz.toNat < 32 := by
      omega
    rw [if_neg hruns]
    exact congrArg some (Subtype.ext hones)

end RouteEntry

end ControlPlane
