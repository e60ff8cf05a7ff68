import ControlPlane.Operation

/-! # Pools of single indices

An `IndexPool` hands out the indices of a range, one at a time.  A bitmap holds which are out, and
a cursor stands just past the last one that was handed out.  The next one is the first free index
from the cursor on, going around at the end of the range, so that an index that was just given
back is not handed out again while the hardware may still use it.

`contains_take` and `contains_putBack` say what each operation does to the set of indices that are
out. -/

namespace ControlPlane

/-- The indices from `first` up to but not including `stop`, and their name in messages. -/
structure IndexRange where
  name : String
  first : Nat
  stop : Nat

namespace IndexRange

def interfaces : IndexRange := ⟨"l3_intf", 1, 4096⟩

def egresses : IndexRange := ⟨"l3_next_hop", 1, 16384⟩

def groups : IndexRange := ⟨"l3_ecmp_group", 1, 1024⟩

def routes : IndexRange := ⟨"l3_defip", 0, 8192⟩

def size (r : IndexRange) : Nat := r.stop - r.first

/-- Whether `n` is an index of the range. -/
def Holds (r : IndexRange) (n : Nat) : Prop := r.first ≤ n ∧ n < r.stop

instance (r : IndexRange) (n : Nat) : Decidable (r.Holds n) := inferInstanceAs (Decidable (_ ∧ _))

/-- The index after `n`, going around at the end. -/
def next (r : IndexRange) (n : Nat) : Nat := if n + 1 = r.stop then r.first else n + 1

end IndexRange

structure IndexPool where
  range : IndexRange
  /-- Bit `i` is set when index `first + i` is out. -/
  bits : Nat
  cursor : Nat
  used : Nat

namespace IndexPool

/-- A pool with no index out. -/
def fresh (range : IndexRange) : IndexPool := ⟨range, 0, range.first, 0⟩

/-- Whether index `n` is out. -/
def contains (p : IndexPool) (n : Nat) : Bool :=
  decide (p.range.Holds n) && p.bits.testBit (n - p.range.first)

/-- The first free index among `steps` of them from `n` on. -/
def scan (p : IndexPool) : Nat → Nat → Option Nat
  | 0, _ => none
  | steps + 1, n => if p.contains n then p.scan steps (p.range.next n) else some n

/-- The pool with `n` handed out. -/
def take (p : IndexPool) (n : Nat) : IndexPool :=
  { p with
    bits := p.bits ||| 2 ^ (n - p.range.first)
    cursor := p.range.next n
    used := p.used + 1 }

/-- The pool with `n`, which is out, given back. -/
def putBack (p : IndexPool) (n : Nat) : IndexPool :=
  { p with
    bits := p.bits ^^^ 2 ^ (n - p.range.first)
    used := p.used - 1 }

/-- Hands out an index. -/
def alloc : Operation IndexPool Nat := fun p =>
  match p.scan p.range.size p.cursor with
  | some n => .ok n (p.take n)
  | none => .error (.full (.table p.range.name)) p

/-- Gives an index back. -/
def free (n : Nat) : Operation IndexPool Unit := fun p =>
  if ¬ p.range.Holds n then
    .error (.invalid (.indexRange p.range.name n)) p
  else if p.contains n then
    .ok () (p.putBack n)
  else
    .error (.missing (.index p.range.name n)) p

/-! ### What each operation does to the set -/

@[simp] theorem contains_fresh (range : IndexRange) (n : Nat) :
    (fresh range).contains n = false := by
  simp [contains, fresh]

theorem contains_take (p : IndexPool) {n : Nat} (h : p.range.Holds n) (m : Nat) :
    (p.take n).contains m = (p.contains m || decide (m = n)) := by
  have hn := h.1
  unfold contains take
  simp only [Nat.testBit_or, Nat.testBit_two_pow]
  by_cases hm : p.range.Holds m
  · have := hm.1
    have e : decide (n - p.range.first = m - p.range.first) = decide (m = n) := by
      rw [decide_eq_decide]
      omega
    simp [hm, e]
  · have hne : m ≠ n := fun e => hm (e ▸ h)
    simp [hm, hne]

theorem contains_putBack (p : IndexPool) {n : Nat} (h : p.contains n = true) (m : Nat) :
    (p.putBack n).contains m = (p.contains m && decide (m ≠ n)) := by
  unfold contains at h
  have hn := of_decide_eq_true (Bool.and_eq_true_iff.mp h).1
  have hb := (Bool.and_eq_true_iff.mp h).2
  have := hn.1
  unfold contains putBack
  simp only [Nat.testBit_xor, Nat.testBit_two_pow]
  by_cases hm : p.range.Holds m
  · have := hm.1
    by_cases e : m = n
    · subst e
      simp [hb]
    · have e' : n - p.range.first ≠ m - p.range.first := by omega
      simp [hm, e, e']
  · simp [hm]

end IndexPool

end ControlPlane
