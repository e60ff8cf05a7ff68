import ControlPlane.Alloc.IndexPool
import ControlPlane.Routing.State
import Mathlib.Logic.Function.Iterate

/-! # Which indices a pool has out

`IndexPool.Tracks p range live` says that the indices which `p` has out are exactly those of which
`live` holds, and that its cursor stands in the range.  Each operation is described by what it does
to `live`.

* **Handing out.**  `alloc_ok` and `alloc_error` say that the index handed out was free, and that a
  refusal means that no index of the range was (`Full`): the search visits every index once before
  it gives up (`exists_iterate_next`).
* **Giving back.**  `Tracks.free` says that an index which is out is always taken back.
* **Undoing.**  An index that is handed out and given back again leaves nothing but the cursor behind
  (`without_take`). -/

namespace ControlPlane

namespace IndexRange

variable {r : IndexRange} {n m : Nat}

theorem holds_next (h : r.Holds n) : r.Holds (r.next n) := by
  obtain ⟨h1, h2⟩ := h
  unfold next Holds
  split <;> omega

/-- The indices after `n` in cyclic order. -/
theorem iterate_next (h : r.Holds n) (i : Nat) :
    r.next^[i] n = r.first + (n - r.first + i) % r.size := by
  obtain ⟨h1, h2⟩ := h
  have hs : n - r.first < r.size := by unfold size; omega
  induction i with
  | zero =>
      rw [Nat.add_zero, Nat.mod_eq_of_lt hs]
      simp only [Function.iterate_zero, id_eq]
      omega
  | succ i ih =>
      have hlt : (n - r.first + i) % r.size < r.size := Nat.mod_lt _ (by omega)
      have e : (n - r.first + (i + 1)) % r.size = ((n - r.first + i) % r.size + 1) % r.size := by
        rw [Nat.mod_add_mod, Nat.add_assoc]
      rw [Function.iterate_succ_apply', ih, e]
      generalize (n - r.first + i) % r.size = k at hlt
      unfold next size at *
      by_cases hl : r.first + k + 1 = r.stop
      · rw [if_pos hl, show k + 1 = r.stop - r.first by omega, Nat.mod_self]
        rfl
      · rw [if_neg hl, Nat.mod_eq_of_lt (by omega)]
        omega

/-- How many steps it is from `n` to `m`, going around at the end. -/
def ahead (r : IndexRange) (n m : Nat) : Nat := if n ≤ m then m - n else r.size - (n - m)

/-- Counting up leads there before the end, or once it has gone around. -/
theorem ahead_cases (hn : r.Holds n) (hm : r.Holds m) :
    n ≤ m ∧ n + r.ahead n m = m ∨ m < n ∧ n + r.ahead n m = m + (r.stop - r.first) := by
  obtain ⟨n1, n2⟩ := hn
  obtain ⟨m1, m2⟩ := hm
  unfold ahead size
  split <;> omega

theorem next_cases (r : IndexRange) (n : Nat) :
    n + 1 = r.stop ∧ r.next n = r.first ∨ n + 1 ≠ r.stop ∧ r.next n = n + 1 := by
  unfold next
  split
  · exact .inl ⟨‹_›, rfl⟩
  · exact .inr ⟨‹_›, rfl⟩

theorem ahead_lt (hn : r.Holds n) (hm : r.Holds m) : r.ahead n m < r.size := by
  have := ahead_cases hn hm
  unfold Holds at hn hm
  unfold size
  omega

/-- So many steps lead there. -/
theorem iterate_next_ahead (hn : r.Holds n) (hm : r.Holds m) : r.next^[r.ahead n m] n = m := by
  have hlt := ahead_lt hn hm
  have hahead := ahead_cases hn hm
  rw [iterate_next hn]
  unfold Holds at hn hm
  by_cases h : n ≤ m
  · rw [Nat.mod_eq_of_lt (by unfold size at *; omega)]
    omega
  · have e : n - r.first + r.ahead n m = (m - r.first) + r.size := by unfold size; omega
    rw [e, Nat.add_mod_right, Nat.mod_eq_of_lt (by unfold size; omega)]
    omega

@[simp] theorem ahead_self : r.ahead n n = 0 := by
  simp [ahead]

/-- No two indices are equally far away. -/
theorem ahead_inj {k : Nat} (hn : r.Holds n) (hm : r.Holds m) (hk : r.Holds k)
    (h : r.ahead n m = r.ahead n k) : m = k := by
  rw [← iterate_next_ahead hn hm, h, iterate_next_ahead hn hk]

/-- Steps add up, -/
theorem ahead_of_le {k : Nat} (hn : r.Holds n) (hm : r.Holds m) (hk : r.Holds k)
    (h : r.ahead n m ≤ r.ahead n k) : r.ahead n k = r.ahead n m + r.ahead m k := by
  have := ahead_cases hn hm
  have := ahead_cases hn hk
  have := ahead_cases hm hk
  unfold Holds at hn hm hk
  omega

/-- but for once around. -/
theorem ahead_of_lt {k : Nat} (hn : r.Holds n) (hm : r.Holds m) (hk : r.Holds k)
    (h : r.ahead n k < r.ahead n m) : r.ahead n k + r.size = r.ahead n m + r.ahead m k := by
  have := ahead_cases hn hm
  have := ahead_cases hn hk
  have := ahead_cases hm hk
  unfold Holds at hn hm hk
  unfold size
  omega

/-- One step on, every index but the one left behind is one step nearer. -/
theorem ahead_next (hn : r.Holds n) (hm : r.Holds m) (hne : m ≠ n) :
    r.ahead n m = r.ahead (r.next n) m + 1 := by
  have := next_cases r n
  have := ahead_cases hn hm
  have := ahead_cases (holds_next hn) hm
  unfold Holds at hn hm
  omega

/-- The one left behind is the farthest away. -/
theorem ahead_next_self (hn : r.Holds n) : r.ahead (r.next n) n + 1 = r.size := by
  have := next_cases r n
  have := ahead_cases (holds_next hn) hn
  unfold Holds at hn
  unfold size
  omega

/-- An index is one step nearer than the next, which is not the first of all. -/
theorem ahead_next_of_ne (hn : r.Holds n) (hm : r.Holds m) (hne : m ≠ n) :
    r.ahead (r.next n) (r.next m) = r.ahead (r.next n) m + 1 := by
  have := next_cases r n
  have := next_cases r m
  have := ahead_cases (holds_next hn) hm
  have := ahead_cases (holds_next hn) (holds_next hm)
  unfold Holds at hn hm
  omega

/-- Every index is met on the way around. -/
theorem exists_iterate_next (hn : r.Holds n) (hm : r.Holds m) :
    ∃ i, i < r.size ∧ r.next^[i] n = m :=
  ⟨r.ahead n m, ahead_lt hn hm, iterate_next_ahead hn hm⟩

end IndexRange

namespace IndexPool

variable {p q : IndexPool} {n : Nat} {e : Error}

/-- Every index of the range is out. -/
def Full (p : IndexPool) : Prop := ∀ n, p.range.Holds n → p.contains n = true

/-- The same pool with its cursor at the start. -/
def rewound (p : IndexPool) : IndexPool := { p with cursor := p.range.first }

theorem holds_of_contains (h : p.contains n = true) : p.range.Holds n :=
  of_decide_eq_true (Bool.and_eq_true_iff.mp h).1

/-! ### The search -/

theorem scan_some {steps : Nat} {k : Nat} (hn : p.range.Holds n) (h : p.scan steps n = some k) :
    p.range.Holds k ∧ p.contains k = false := by
  induction steps generalizing n with
  | zero => cases h
  | succ steps ih =>
      rw [scan] at h
      split at h
      · exact ih (IndexRange.holds_next hn) h
      · rename_i hf
        cases h
        exact ⟨hn, by simpa using hf⟩

theorem scan_none {steps : Nat} (h : p.scan steps n = none) :
    ∀ i, i < steps → p.contains (p.range.next^[i] n) = true := by
  induction steps generalizing n with
  | zero => intro i hi; omega
  | succ steps ih =>
      rw [scan] at h
      split at h
      · intro i hi
        cases i with
        | zero => assumption
        | succ i => exact ih h i (by omega)
      · cases h

theorem alloc_ok (hc : p.range.Holds p.cursor) (h : p.alloc = .ok n q) :
    q = p.take n ∧ p.range.Holds n ∧ p.contains n = false := by
  unfold alloc at h
  split at h
  · cases h
    exact ⟨rfl, scan_some hc ‹_›⟩
  · cases h

/-- A pool refuses only when every index is out. -/
theorem alloc_error (hc : p.range.Holds p.cursor) (h : p.alloc = .error e q) :
    q = p ∧ e = .full (.table p.range.name) ∧ p.Full := by
  unfold alloc at h
  split at h
  · cases h
  · cases h
    refine ⟨rfl, rfl, fun m hm => ?_⟩
    obtain ⟨i, hi, rfl⟩ := IndexRange.exists_iterate_next hc hm
    exact scan_none ‹_› i hi

/-! ### Undoing -/

theorem testBit_of_contains_eq_false (hn : p.range.Holds n) (h : p.contains n = false) :
    p.bits.testBit (n - p.range.first) = false := by
  simpa [contains, hn] using h

theorem contains_take_self (hn : p.range.Holds n) : (p.take n).contains n = true := by
  rw [contains_take p hn]
  simp

theorem free_of_contains (h : p.contains n = true) : p.free n = .ok () (p.putBack n) := by
  have hn := holds_of_contains h
  unfold free
  simp [hn, h]

theorem without_of_contains (h : p.contains n = true) : p.without n = p.putBack n := by
  rw [without, Operation.after, free_of_contains h]

/-- An index that is handed out and given back leaves only the cursor behind. -/
theorem without_take (hn : p.range.Holds n) (h : p.contains n = false) :
    (p.take n).without n = { p with cursor := p.range.next n } := by
  have hb := testBit_of_contains_eq_false hn h
  have e : (p.bits ||| 2 ^ (n - p.range.first)) ^^^ 2 ^ (n - p.range.first) = p.bits := by
    apply Nat.eq_of_testBit_eq
    intro i
    simp only [Nat.testBit_xor, Nat.testBit_or, Nat.testBit_two_pow]
    by_cases hi : n - p.range.first = i
    · subst hi
      simp [hb]
    · simp [hi]
  rw [without_of_contains (contains_take_self hn), putBack, take]
  simp only [e, Nat.add_sub_cancel]

/-! ### The set of indices that are out -/

/-- The indices out are those of which `live` holds, and the cursor is in the range. -/
structure Tracks (p : IndexPool) (range : IndexRange) (live : Nat → Prop) : Prop where
  range_eq : p.range = range
  cursor_mem : range.Holds p.cursor
  contains_iff : ∀ n, p.contains n = true ↔ live n

namespace Tracks

variable {range : IndexRange} {live live' : Nat → Prop}

theorem fresh (h : range.first < range.stop) : (fresh range).Tracks range fun _ => False :=
  ⟨rfl, ⟨Nat.le_refl _, h⟩, fun n => by simp⟩

theorem congr (h : p.Tracks range live) (hl : ∀ n, live' n ↔ live n) : p.Tracks range live' :=
  ⟨h.range_eq, h.cursor_mem, fun n => (h.contains_iff n).trans (hl n).symm⟩

theorem holds (h : p.Tracks range live) (hn : live n) : range.Holds n :=
  h.range_eq ▸ holds_of_contains ((h.contains_iff n).mpr hn)

theorem take (h : p.Tracks range live) (hn : range.Holds n) :
    (p.take n).Tracks range fun m => live m ∨ m = n := by
  have hr := h.range_eq
  subst hr
  refine ⟨rfl, IndexRange.holds_next hn, fun m => ?_⟩
  rw [contains_take p hn, Bool.or_eq_true, h.contains_iff, decide_eq_true_eq]

/-- An index that is out is taken back. -/
theorem free (h : p.Tracks range live) (hn : live n) :
    p.free n = .ok () (p.putBack n) ∧ (p.putBack n).Tracks range fun m => live m ∧ m ≠ n := by
  have hr := h.range_eq
  subst hr
  have hc := (h.contains_iff n).mpr hn
  refine ⟨free_of_contains hc, rfl, h.cursor_mem, fun m => ?_⟩
  rw [contains_putBack p hc, Bool.and_eq_true, h.contains_iff, decide_eq_true_eq]

/-- An index that is handed out and given back leaves the same indices out. -/
theorem without_take (h : p.Tracks range live) (hn : range.Holds n) (hl : ¬ live n) :
    ((p.take n).without n).rewound = p.rewound ∧ ((p.take n).without n).Tracks range live := by
  have hr := h.range_eq
  subst hr
  have hf : p.contains n = false := (Bool.not_eq_true _).mp (mt (h.contains_iff n).mp hl)
  rw [IndexPool.without_take hn hf]
  exact ⟨rfl, rfl, IndexRange.holds_next hn, h.contains_iff⟩

theorem alloc_ok (h : p.Tracks range live) (ha : p.alloc = .ok n q) :
    q = p.take n ∧ range.Holds n ∧ ¬ live n := by
  have hr := h.range_eq
  subst hr
  obtain ⟨hq, hn, hf⟩ := IndexPool.alloc_ok h.cursor_mem ha
  refine ⟨hq, hn, fun hl => ?_⟩
  rw [(h.contains_iff n).mpr hl] at hf
  cases hf

theorem alloc_error (h : p.Tracks range live) (ha : p.alloc = .error e q) :
    q = p ∧ e = .full (.table range.name) ∧ p.Full := by
  have hr := h.range_eq
  subst hr
  exact IndexPool.alloc_error h.cursor_mem ha

end Tracks

end IndexPool

end ControlPlane
