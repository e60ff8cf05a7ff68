import ControlPlane.Proofs.Alloc.IndexPool
import ControlPlane.Proofs.Operation
import Mathlib.Data.Finset.Card
import Mathlib.Tactic.Common

/-! # A pool of indices as a set

A pool hands out the first free index from its cursor on, going around at the end of the range, and
leaves the cursor just past it.  That it keeps a bitmap, and counts apart from the bitmap how many
indices are out, makes no difference to who asks.

* `IndexRun` is what a list of requests has led to: the pool, and the set of indices that are out as the
  answers tell it.
* **Next fit.**  `scan_first`: the search ends at the free index that is the fewest steps ahead, and there
  is one such at most (`IndexRange.First.unique`).
* **One request.**  `Kept.call`: the bitmap stays the set, without a bit past the end of the range, and the
  count stays its size.
* **Every run.**  `indices_refine_set`: after every list of requests the pool answers as the set and the
  cursor say. -/

namespace ControlPlane

namespace IndexRange

variable {r : IndexRange} {start n m : Nat}

/-- The first free index from `start` on, going around at the end. -/
structure First (r : IndexRange) (start : Nat) (free : Nat → Prop) (n : Nat) : Prop where
  holds : r.Holds n
  isFree : free n
  le : ∀ m, r.Holds m → free m → r.ahead start n ≤ r.ahead start m

theorem First.unique {free : Nat → Prop} (h : r.Holds start) (hn : r.First start free n)
    (hm : r.First start free m) : n = m :=
  ahead_inj h hn.holds hm.holds
    (Nat.le_antisymm (hn.le m hm.holds hm.isFree) (hm.le n hn.holds hn.isFree))

end IndexRange

namespace IndexPool

variable {p : IndexPool} {n k : Nat}

/-! ### The search -/

/-- The search ends at the free index that is the fewest steps ahead. -/
theorem scan_first {steps : Nat} (hn : p.range.Holds n) (h : p.scan steps n = some k) :
    p.range.First n (p.contains · = false) k := by
  induction steps generalizing n with
  | zero => cases h
  | succ steps ih =>
      rw [scan] at h
      split at h
      · rename_i hout
        obtain ⟨hk, hfree, hle⟩ := ih (IndexRange.holds_next hn) h
        have ne_of_free {m : Nat} (hm : p.contains m = false) : m ≠ n := by
          rintro rfl
          rw [hout] at hm
          cases hm
        refine ⟨hk, hfree, fun m hm hf => ?_⟩
        rw [IndexRange.ahead_next hn hk (ne_of_free hfree), IndexRange.ahead_next hn hm (ne_of_free hf)]
        exact Nat.succ_le_succ (hle m hm hf)
      · rename_i hfree
        cases h
        refine ⟨hn, by simpa using hfree, fun m _ _ => ?_⟩
        rw [IndexRange.ahead_self]
        exact Nat.zero_le _

end IndexPool

/-! ### Requests -/

/-- Something that can be asked of a pool. -/
inductive IndexRequest where
  | alloc
  | free (n : Nat)
  | contains (n : Nat)
  deriving DecidableEq

/-- Whether a request does not fail. -/
def IndexRequest.succeeds : IndexRequest → IndexPool → Bool
  | alloc, p => (Operation.answer IndexPool.alloc p).isOk
  | free n, p => (Operation.answer (IndexPool.free n) p).isOk
  | contains _, _ => true

/-- What some requests have led to: the pool, and the indices that its answers leave out. -/
structure IndexRun where
  pool : IndexPool
  out : Finset Nat

namespace IndexRun

variable {r : IndexRun} {range : IndexRange} {n m : Nat} {requests : List IndexRequest}

/-- Nothing has been asked yet, and no index is out. -/
def start (range : IndexRange) : IndexRun := ⟨.fresh range, ∅⟩

/-- An index that is handed out is put in the set, and one that is taken back leaves it. -/
def call (r : IndexRun) : IndexRequest → IndexRun
  | .alloc =>
    match r.pool.alloc with
    | .ok n pool => ⟨pool, insert n r.out⟩
    | .error _ pool => ⟨pool, r.out⟩
  | .free n =>
    match r.pool.free n with
    | .ok _ pool => ⟨pool, r.out.erase n⟩
    | .error _ pool => ⟨pool, r.out⟩
  | .contains _ => r

/-- The run of some requests, on a fresh pool. -/
def of (range : IndexRange) (requests : List IndexRequest) : IndexRun :=
  requests.foldl call (start range)

/-- The pool is the set of indices that are out, with a cursor from which the next one is looked for. -/
structure Refines (range : IndexRange) (r : IndexRun) : Prop where
  contains_iff : ∀ n, r.pool.contains n = true ↔ n ∈ r.out
  inside : ∀ n ∈ r.out, range.Holds n
  /-- Sixteen bits are enough for what is out. -/
  fits : ∀ n ∈ r.out, n % 2 ^ 16 = n
  cursor : range.Holds r.pool.cursor
  /-- What is handed out is the first free index from the cursor on. -/
  handed : ∀ n, Operation.answer IndexPool.alloc r.pool = .ok n ↔
    range.First r.pool.cursor (· ∉ r.out) n
  /-- It is out then, and the cursor is just past it. -/
  taken : ∀ n, Operation.answer IndexPool.alloc r.pool = .ok n →
    (∀ m, (r.call .alloc).pool.contains m = true ↔ m = n ∨ m ∈ r.out) ∧
      (r.call .alloc).pool.cursor = range.next n
  /-- There is no index left exactly if the whole range is out. -/
  full : Operation.answer IndexPool.alloc r.pool = .error (.full (.table range.name)) ↔
    ∀ n, range.Holds n → n ∈ r.out
  /-- An index is taken back exactly if it is out, -/
  freed : ∀ n, Operation.answer (IndexPool.free n) r.pool = .ok () ↔ n ∈ r.out
  /-- it is not out then, and every other index is as it was. -/
  given : ∀ n ∈ r.out, (∀ m, (r.call (.free n)).pool.contains m = true ↔ m ∈ r.out ∧ m ≠ n) ∧
    (r.call (.free n)).pool.cursor = r.pool.cursor
  outside : ∀ n, Operation.answer (IndexPool.free n) r.pool =
    .error (.invalid (.indexRange range.name n)) ↔ ¬ range.Holds n
  missing : ∀ n, Operation.answer (IndexPool.free n) r.pool =
    .error (.missing (.index range.name n)) ↔ range.Holds n ∧ n ∉ r.out
  /-- A request that fails changes nothing. -/
  unchanged : ∀ request : IndexRequest, request.succeeds r.pool = false → r.call request = r
  used : r.pool.used = r.out.card
  /-- No bit of the bitmap is set past the end of the range. -/
  blank : ∀ i, range.size ≤ i → r.pool.bits.testBit i = false

/-- What each request keeps: the bitmap is the set and nothing else, and the count is its size. -/
structure Kept (range : IndexRange) (r : IndexRun) : Prop where
  tracks : r.pool.Tracks range (· ∈ r.out)
  used : r.pool.used = r.out.card
  blank : ∀ i, range.size ≤ i → r.pool.bits.testBit i = false

theorem kept_start (h : range.first < range.stop) : (start range).Kept range where
  tracks := (IndexPool.Tracks.fresh h).congr fun n => by simp [start]
  used := rfl
  blank i _ := Nat.zero_testBit i

namespace Kept

theorem contains_eq_false_iff (h : r.Kept range) : r.pool.contains n = false ↔ n ∉ r.out := by
  rw [← Bool.not_eq_true, h.tracks.contains_iff]

/-! ### What becomes of a request -/

/-- The first free index is handed out, unless all are out. -/
theorem alloc_cases (h : r.Kept range) :
    (∃ n, range.First r.pool.cursor (· ∉ r.out) n ∧
      Operation.answer IndexPool.alloc r.pool = .ok n ∧
      r.call .alloc = ⟨r.pool.take n, insert n r.out⟩) ∨
    ((∀ n, range.Holds n → n ∈ r.out) ∧
      Operation.answer IndexPool.alloc r.pool = .error (.full (.table range.name)) ∧
      r.call .alloc = r) := by
  have hr := h.tracks.range_eq
  subst hr
  cases hscan : r.pool.scan r.pool.range.size r.pool.cursor with
  | some n =>
      have halloc : r.pool.alloc = .ok n (r.pool.take n) := by rw [IndexPool.alloc, hscan]
      have hfirst := IndexPool.scan_first h.tracks.cursor_mem hscan
      simp only [h.contains_eq_false_iff] at hfirst
      refine .inl ⟨n, hfirst, ?_, ?_⟩
      · rw [Operation.answer, halloc]
      · simp only [call, halloc]
  | none =>
      have halloc : r.pool.alloc = .error (.full (.table r.pool.range.name)) r.pool := by
        rw [IndexPool.alloc, hscan]
      obtain ⟨-, -, hfull⟩ := h.tracks.alloc_error halloc
      refine .inr ⟨fun n hn => (h.tracks.contains_iff n).mp (hfull n hn), ?_, ?_⟩
      · rw [Operation.answer, halloc]
      · simp only [call, halloc]

/-- An index that is out is taken back, and no other. -/
theorem free_cases (h : r.Kept range) (n : Nat) :
    (n ∈ r.out ∧ Operation.answer (IndexPool.free n) r.pool = .ok () ∧
      r.call (.free n) = ⟨r.pool.putBack n, r.out.erase n⟩) ∨
    ((range.Holds n ∧ n ∉ r.out) ∧
      Operation.answer (IndexPool.free n) r.pool = .error (.missing (.index range.name n)) ∧
      r.call (.free n) = r) ∨
    (¬ range.Holds n ∧
      Operation.answer (IndexPool.free n) r.pool = .error (.invalid (.indexRange range.name n)) ∧
      r.call (.free n) = r) := by
  have hr := h.tracks.range_eq
  subst hr
  by_cases hn : r.pool.range.Holds n
  · by_cases hout : n ∈ r.out
    · have hfree := (h.tracks.free hout).1
      refine .inl ⟨hout, ?_, ?_⟩
      · rw [Operation.answer, hfree]
      · simp only [call, hfree]
    · have hfree : r.pool.free n = .error (.missing (.index r.pool.range.name n)) r.pool := by
        rw [IndexPool.free, if_neg (not_not_intro hn), h.contains_eq_false_iff.mpr hout]
        rfl
      refine .inr (.inl ⟨⟨hn, hout⟩, ?_, ?_⟩)
      · rw [Operation.answer, hfree]
      · simp only [call, hfree]
  · have hfree : r.pool.free n = .error (.invalid (.indexRange r.pool.range.name n)) r.pool := by
      rw [IndexPool.free, if_pos hn]
    refine .inr (.inr ⟨hn, ?_, ?_⟩)
    · rw [Operation.answer, hfree]
    · simp only [call, hfree]

/-! ### One request -/

/-- The bits of indices are not past the end of the range. -/
theorem bit_ne (hn : range.Holds n) {i : Nat} (hi : range.size ≤ i) : n - range.first ≠ i := by
  obtain ⟨h1, h2⟩ := hn
  unfold IndexRange.size at hi
  omega

theorem take (h : r.Kept range) (hn : range.Holds n) (hfree : n ∉ r.out) :
    Kept range ⟨r.pool.take n, insert n r.out⟩ where
  tracks := (h.tracks.take hn).congr fun m => by rw [Finset.mem_insert, or_comm]
  used := by
    rw [Finset.card_insert_of_notMem hfree, ← h.used]
    rfl
  blank i hi := by
    have hr := h.tracks.range_eq
    subst hr
    rw [IndexPool.take, Nat.testBit_or, h.blank i hi, Nat.testBit_two_pow_of_ne (bit_ne hn hi)]
    rfl

theorem putBack (h : r.Kept range) (hout : n ∈ r.out) :
    Kept range ⟨r.pool.putBack n, r.out.erase n⟩ where
  tracks := (h.tracks.free hout).2.congr fun m => by rw [Finset.mem_erase, and_comm]
  used := by
    rw [Finset.card_erase_of_mem hout, ← h.used]
    rfl
  blank i hi := by
    have hn := h.tracks.holds hout
    have hr := h.tracks.range_eq
    subst hr
    rw [IndexPool.putBack, Nat.testBit_xor, h.blank i hi, Nat.testBit_two_pow_of_ne (bit_ne hn hi)]
    rfl

theorem call (h : r.Kept range) (request : IndexRequest) : (r.call request).Kept range := by
  cases request with
  | alloc =>
      obtain ⟨n, hfirst, -, hcall⟩ | ⟨-, -, hcall⟩ := h.alloc_cases
      · rw [hcall]
        exact h.take hfirst.holds hfirst.isFree
      · rwa [hcall]
  | free n =>
      obtain ⟨hout, -, hcall⟩ | ⟨-, -, hcall⟩ | ⟨-, -, hcall⟩ := h.free_cases n
      · rw [hcall]
        exact h.putBack hout
      · rwa [hcall]
      · rwa [hcall]
  | contains n => exact h

/-! ### What a pool answers -/

theorem handed (h : r.Kept range) (n : Nat) : Operation.answer IndexPool.alloc r.pool = .ok n ↔
    range.First r.pool.cursor (· ∉ r.out) n := by
  obtain ⟨k, hfirst, hanswer, -⟩ | ⟨hall, hanswer, -⟩ := h.alloc_cases
  · rw [hanswer, Except.ok.injEq]
    constructor
    · rintro rfl
      exact hfirst
    · exact fun hn => hfirst.unique h.tracks.cursor_mem hn
  · rw [hanswer]
    exact iff_of_false nofun fun hn => hn.isFree (hall n hn.holds)

theorem taken (h : r.Kept range) (hanswer : Operation.answer IndexPool.alloc r.pool = .ok n) :
    (∀ m, (r.call .alloc).pool.contains m = true ↔ m = n ∨ m ∈ r.out) ∧
      (r.call .alloc).pool.cursor = range.next n := by
  obtain ⟨k, -, hk, hcall⟩ | ⟨-, hfull, -⟩ := h.alloc_cases
  · obtain rfl : k = n := Except.ok.inj (hk.symm.trans hanswer)
    have hcontains := (h.call .alloc).tracks.contains_iff
    have hr := h.tracks.range_eq
    subst hr
    rw [hcall] at hcontains ⊢
    exact ⟨fun m => (hcontains m).trans Finset.mem_insert, rfl⟩
  · cases hfull.symm.trans hanswer

theorem full (h : r.Kept range) :
    Operation.answer IndexPool.alloc r.pool = .error (.full (.table range.name)) ↔
      ∀ n, range.Holds n → n ∈ r.out := by
  obtain ⟨n, hfirst, hanswer, -⟩ | ⟨hall, hanswer, -⟩ := h.alloc_cases
  · rw [hanswer]
    exact iff_of_false nofun fun hall => hfirst.isFree (hall n hfirst.holds)
  · exact iff_of_true hanswer hall

/-- A request that fails has left the pool and the set alone. -/
theorem call_of_fails (h : r.Kept range) {request : IndexRequest}
    (hfails : request.succeeds r.pool = false) : r.call request = r := by
  cases request with
  | alloc =>
      obtain ⟨n, -, hanswer, -⟩ | ⟨-, -, hcall⟩ := h.alloc_cases
      · rw [IndexRequest.succeeds, hanswer] at hfails
        cases hfails
      · exact hcall
  | free n =>
      obtain ⟨-, hanswer, -⟩ | ⟨-, -, hcall⟩ | ⟨-, -, hcall⟩ := h.free_cases n
      · rw [IndexRequest.succeeds, hanswer] at hfails
        cases hfails
      · exact hcall
      · exact hcall
  | contains n => cases hfails

end Kept

theorem Kept.refines (h : r.Kept range) (hlimit : range.stop ≤ 2 ^ 16) : r.Refines range where
  contains_iff := h.tracks.contains_iff
  inside n := h.tracks.holds
  fits n hout := Nat.mod_eq_of_lt (Nat.lt_of_lt_of_le (h.tracks.holds hout).2 hlimit)
  cursor := h.tracks.cursor_mem
  handed := h.handed
  taken _ := h.taken
  full := h.full
  freed n := by
    obtain ⟨hout, hanswer, -⟩ | ⟨⟨-, hout⟩, hanswer, -⟩ | ⟨hn, hanswer, -⟩ := h.free_cases n
    · exact iff_of_true hanswer hout
    · rw [hanswer]
      exact iff_of_false nofun hout
    · rw [hanswer]
      exact iff_of_false nofun fun hout => hn (h.tracks.holds hout)
  given n hout := by
    obtain ⟨-, -, hcall⟩ | ⟨⟨-, hnot⟩, -⟩ | ⟨hn, -⟩ := h.free_cases n
    · have hcontains := (h.call (.free n)).tracks.contains_iff
      rw [hcall] at hcontains ⊢
      exact ⟨fun m => (hcontains m).trans (Finset.mem_erase.trans and_comm), rfl⟩
    · exact absurd hout hnot
    · exact absurd (h.tracks.holds hout) hn
  outside n := by
    obtain ⟨hout, hanswer, -⟩ | ⟨⟨hn, -⟩, hanswer, -⟩ | ⟨hn, hanswer, -⟩ := h.free_cases n
    · rw [hanswer]
      exact iff_of_false nofun (not_not_intro (h.tracks.holds hout))
    · rw [hanswer]
      exact iff_of_false nofun (not_not_intro hn)
    · exact iff_of_true hanswer hn
  missing n := by
    obtain ⟨hout, hanswer, -⟩ | ⟨hn, hanswer, -⟩ | ⟨hn, hanswer, -⟩ := h.free_cases n
    · rw [hanswer]
      exact iff_of_false nofun fun hn => hn.2 hout
    · exact iff_of_true hanswer hn
    · rw [hanswer]
      exact iff_of_false nofun fun hn' => hn hn'.1
  unchanged _ := h.call_of_fails
  used := h.used
  blank := h.blank

theorem of_kept (h : range.first < range.stop) (requests : List IndexRequest) :
    (of range requests).Kept range := by
  refine List.foldlRecOn (motive := Kept range) requests call (kept_start h) ?_
  intro r hr request _
  exact hr.call request

end IndexRun

/-- After every list of requests, with any indices, a pool is the set of indices that its answers left out:
it hands out the first one that is free from its cursor on, and takes back what is out. -/
theorem indices_refine_set (range : IndexRange) (h : range.first < range.stop)
    (hlimit : range.stop ≤ 2 ^ 16) (requests : List IndexRequest) :
    (IndexRun.of range requests).Refines range :=
  (IndexRun.of_kept h requests).refines hlimit

/-- Index 1 was given back before index 3 was handed out, and is handed out again after it.  There are only
three. -/
theorem indices_refine_set_rotated :
    let range : IndexRange := ⟨"tiny", 1, 4⟩
    let r := IndexRun.of range [.alloc, .alloc, .free 1, .alloc, .alloc]
    range.first < range.stop ∧ range.stop ≤ 2 ^ 16 ∧ r.pool.used = 3 ∧ r.pool.cursor = 2 ∧
      Operation.answer IndexPool.alloc r.pool = .error (.full (.table "tiny")) ∧
      Operation.answer IndexPool.alloc (r.call (.free 2)).pool = .ok 2 ∧ r.Refines range :=
  ⟨by decide, by decide, rfl, rfl, rfl, rfl, indices_refine_set _ (by decide) (by decide) _⟩

end ControlPlane
