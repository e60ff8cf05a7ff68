import ControlPlane.Proofs.Alloc.SpanPool
import ControlPlane.Proofs.Operation
import Mathlib.Order.Bounds.Basic
import Mathlib.Order.Interval.Finset.Nat
import Mathlib.Tactic.Common

/-! # A pool of places as a set

A pool hands out the lowest run of free places that is long enough.  That it keeps spans and not
places makes no difference to who asks: its spans are the maximal runs of the free places, in
increasing order, so a request that some run could meet is met by one span.

* `PlaceRun` is what a list of requests has led to: the pool, and the set of free places as the
  answers tell it.
* **Runs.**  `Separate.mem_iff`: the spans of a separate list are the maximal runs of what they cover.
  `Separate.exists_span`: places in a row lie in one of the spans.
* **First fit.**  `Separate.le_of_takeFirst` and `Separate.takeFirst_eq_none_iff` say which places are
  handed out, and when none are.
* **Every run.**  `spans_refine_places`: after every list of requests the pool answers as the set of
  free places says, and its spans are the runs of that set. -/

namespace ControlPlane

namespace Span

variable {s t : Span} {l l' : List Span} {n base count : Nat}

/-- A maximal run of the places in a set: all its places are in it, the two next to it are not. -/
structure Maximal (free : Nat → Prop) (s : Span) : Prop where
  nonempty : s.low < s.high
  within : ∀ n, s.Holds n → free n
  above : ¬ free s.high
  below : ∀ n, n + 1 = s.low → ¬ free n

/-! ### Maximal runs -/

/-- Two spans of a separate list are the same, or there is a gap between them. -/
theorem Separate.apart (h : Separate l) (hs : s ∈ l) (ht : t ∈ l) :
    s = t ∨ s.high < t.low ∨ t.high < s.low := by
  induction l with
  | nil => cases hs
  | cons u l ih =>
      obtain ⟨-, hgap, hl⟩ := separate_cons.mp h
      rcases List.mem_cons.mp hs with rfl | hs'
      · rcases List.mem_cons.mp ht with rfl | ht'
        · exact .inl rfl
        · exact .inr (.inl (hgap t ht'))
      · rcases List.mem_cons.mp ht with rfl | ht'
        · exact .inr (.inr (hgap s hs'))
        · exact ih hl hs' ht'

theorem Separate.maximal (h : Separate l) (hs : s ∈ l) : Maximal (Covers l) s where
  nonempty := h.nonempty s hs
  within _ hn := ⟨s, hs, hn⟩
  above := by
    rintro ⟨t, ht, h1, h2⟩
    have := h.nonempty s hs
    rcases h.apart hs ht with rfl | _ | _ <;> omega
  below := by
    rintro n hn ⟨t, ht, h1, h2⟩
    have := h.nonempty s hs
    rcases h.apart hs ht with rfl | _ | _ <;> omega

/-- Maximal runs that share a place are the same. -/
theorem Maximal.eq {free : Nat → Prop} (hs : Maximal free s) (ht : Maximal free t)
    (hn : s.Holds n) (hn' : t.Holds n) : s = t := by
  obtain ⟨s1, s2⟩ := hn
  obtain ⟨t1, t2⟩ := hn'
  -- a run that starts or ends inside the other has a neighbour which is free
  have low_le {u v : Span} (hu : Maximal free u) (hv : Maximal free v) (hle : u.low ≤ n)
      (hnv : n < v.high) : u.low ≤ v.low := by
    by_contra hlt
    exact hu.below (u.low - 1) (by omega) (hv.within _ ⟨by omega, by omega⟩)
  have le_high {u v : Span} (hu : Maximal free u) (hv : Maximal free v) (hle : v.low ≤ n)
      (hnu : n < u.high) : v.high ≤ u.high := by
    by_contra hlt
    exact hu.above (hv.within _ ⟨by omega, by omega⟩)
  have hlow : s.low = t.low := Nat.le_antisymm (low_le hs ht s1 t2) (low_le ht hs t1 s2)
  have hhigh : s.high = t.high := Nat.le_antisymm (le_high ht hs s1 t2) (le_high hs ht t1 s2)
  cases s
  cases t
  simp only [mk.injEq]
  exact ⟨hlow, hhigh⟩

/-- The spans of a separate list are the maximal runs of the places that they cover. -/
theorem Separate.mem_iff (h : Separate l) : s ∈ l ↔ Maximal (Covers l) s := by
  refine ⟨h.maximal, fun hs => ?_⟩
  have hlow : s.Holds s.low := ⟨Nat.le_refl _, hs.nonempty⟩
  obtain ⟨t, ht, hn⟩ := hs.within _ hlow
  rwa [hs.eq (h.maximal ht) hlow hn]

/-- Places in a row lie in one span. -/
theorem Separate.exists_span (h : Separate l) (hc : 0 < count)
    (hrun : ∀ n, base ≤ n → n < base + count → Covers l n) :
    ∃ s ∈ l, s.low ≤ base ∧ base + count ≤ s.high := by
  obtain ⟨s, hs, h1, h2⟩ := hrun base (Nat.le_refl _) (by omega)
  refine ⟨s, hs, h1, ?_⟩
  by_contra hlt
  exact (h.maximal hs).above (hrun s.high (by omega) (by omega))

/-! ### Taking places out -/

theorem takeFirst_eq_none : takeFirst count l = none ↔ ∀ s ∈ l, s.size < count := by
  induction l with
  | nil => simp [takeFirst]
  | cons s l ih =>
      rw [takeFirst, List.forall_mem_cons]
      by_cases hlt : count < s.size
      · rw [if_pos hlt]
        exact iff_of_false (Option.some_ne_none _) fun h => by omega
      · rw [if_neg hlt]
        by_cases heq : count = s.size
        · rw [if_pos heq]
          exact iff_of_false (Option.some_ne_none _) fun h => by omega
        · rw [if_neg heq, Option.map_eq_none_iff, ih]
          exact (and_iff_right (by omega)).symm

/-- Places are taken from a span before which every span is too short. -/
theorem first_of_takeFirst (h : takeFirst count l = some (base, l')) :
    ∃ before s after, l = before ++ s :: after ∧ base = s.low ∧ ∀ t ∈ before, t.size < count := by
  induction l generalizing base l' with
  | nil => cases h
  | cons s l ih =>
      rw [takeFirst] at h
      split at h
      · cases h
        exact ⟨[], s, l, rfl, rfl, List.forall_mem_nil _⟩
      · split at h
        · cases h
          exact ⟨[], s, _, rfl, rfl, List.forall_mem_nil _⟩
        · obtain ⟨⟨base', l''⟩, he, h⟩ := Option.map_eq_some_iff.mp h
          cases h
          obtain ⟨before, t, after, rfl, hbase, hshort⟩ := ih he
          exact ⟨s :: before, t, after, rfl, hbase, List.forall_mem_cons.mpr ⟨by omega, hshort⟩⟩

/-- No lower places in a row would do. -/
theorem Separate.le_of_takeFirst (hl : Separate l) (hc : 0 < count)
    (h : takeFirst count l = some (base, l')) {b : Nat}
    (hrun : ∀ n, b ≤ n → n < b + count → Covers l n) : base ≤ b := by
  obtain ⟨t, ht, hlow, hhigh⟩ := hl.exists_span hc hrun
  obtain ⟨before, s, after, rfl, rfl, hshort⟩ := first_of_takeFirst h
  rcases List.mem_append.mp ht with ht | ht
  · have hsize : t.size < count := hshort t ht
    unfold size at hsize
    omega
  · rcases List.mem_cons.mp ht with rfl | ht
    · exact hlow
    · have hgaps := (List.pairwise_append.mp hl.gaps).2.1
      have hgap := (List.pairwise_cons.mp hgaps).1 t ht
      have := hl.nonempty s (by simp)
      omega

theorem Separate.takeFirst_eq_none_iff (hl : Separate l) (hc : 0 < count) :
    takeFirst count l = none ↔ ∀ b, ¬ ∀ n, b ≤ n → n < b + count → Covers l n := by
  rw [takeFirst_eq_none]
  constructor
  · intro hshort b hrun
    obtain ⟨s, hs, hlow, hhigh⟩ := hl.exists_span hc hrun
    have hsize : s.size < count := hshort s hs
    unfold size at hsize
    omega
  · intro hnone s hs
    by_contra hlong
    unfold size at hlong
    exact hnone s.low fun n h1 h2 => ⟨s, hs, h1, by omega⟩

/-! ### Putting places in -/

/-- A span is taken in only if none of its places is covered yet. -/
theorem Separate.insert_eq_none_iff (hs : s.low < s.high) (hl : Separate l) :
    insert s l = none ↔ ∃ n, s.Holds n ∧ Covers l n := by
  refine ⟨insert_none hs hl, ?_⟩
  induction l with
  | nil =>
      rintro ⟨n, -, hn⟩
      exact absurd hn covers_nil
  | cons t l ih =>
      obtain ⟨t1, t2, t3⟩ := separate_cons.mp hl
      rintro ⟨n, hn, hcover⟩
      have ⟨n1, n2⟩ := hn
      rw [insert]
      split
      · rw [Option.map_eq_none_iff]
        rcases covers_cons.mp hcover with ⟨_, _⟩ | hcover
        · omega
        · exact ih t3 ⟨n, hn, hcover⟩
      · split
        · rcases covers_cons.mp hcover with ⟨_, _⟩ | hcover
          · omega
          · have := lt_of_covers t2 hcover
            omega
        · rfl

/-! ### Counting places -/

/-- The spans of a separate list have as many places as they cover. -/
theorem Separate.card_eq {free : Finset Nat} (hl : Separate l) (hf : ∀ n, n ∈ free ↔ Covers l n) :
    l.foldr (fun s n => s.size + n) 0 = free.card := by
  induction l generalizing free with
  | nil =>
      have hempty : free = ∅ := Finset.eq_empty_of_forall_notMem fun n hn => covers_nil ((hf n).mp hn)
      rw [hempty]
      rfl
  | cons s l ih =>
      obtain ⟨-, hgap, hl⟩ := separate_cons.mp hl
      have hholds (n : Nat) : n ∈ Finset.Ico s.low s.high ↔ s.Holds n := Finset.mem_Ico
      have hrest (n : Nat) : n ∈ free \ Finset.Ico s.low s.high ↔ Covers l n := by
        rw [Finset.mem_sdiff, hf, hholds, covers_cons]
        constructor
        · rintro ⟨hn | hn, hnot⟩
          · exact absurd hn hnot
          · exact hn
        · intro hn
          have := lt_of_covers hgap hn
          exact ⟨.inr hn, fun ⟨_, _⟩ => by omega⟩
      have hsub : Finset.Ico s.low s.high ⊆ free := by
        intro n hn
        exact (hf n).mpr (covers_cons.mpr (.inl ((hholds n).mp hn)))
      have hle := Finset.card_le_card hsub
      rw [List.foldr_cons, ih hl hrest, Finset.card_sdiff_of_subset hsub]
      rw [Nat.card_Ico] at hle ⊢
      change s.high - s.low + (free.card - (s.high - s.low)) = free.card
      omega

end Span

namespace SpanPool

variable {p q : SpanPool} {base count : Nat}

/-! ### Answers -/

theorem answer_alloc (hc : 0 < count) (hs : count ≤ p.size) :
    Operation.answer (alloc count) p = match Span.takeFirst count p.free with
      | some (base, _) => .ok base
      | none => .error (.full (.table p.name)) := by
  rw [Operation.answer, alloc, if_neg (by omega)]
  cases Span.takeFirst count p.free <;> rfl

theorem answer_alloc_ok_iff (hc : 0 < count) (hs : count ≤ p.size) :
    Operation.answer (alloc count) p = .ok base ↔
      ∃ l, Span.takeFirst count p.free = some (base, l) := by
  rw [answer_alloc hc hs]
  cases Span.takeFirst count p.free with
  | none => simp
  | some first => simp [Prod.ext_iff]

theorem answer_alloc_full_iff (hc : 0 < count) (hs : count ≤ p.size) :
    Operation.answer (alloc count) p = .error (.full (.table p.name)) ↔
      Span.takeFirst count p.free = none := by
  rw [answer_alloc hc hs]
  cases Span.takeFirst count p.free <;> simp

theorem answer_release_ok_iff : Operation.answer (release base count) p = .ok () ↔
    0 < count ∧ base + count ≤ p.size ∧ Span.insert ⟨base, base + count⟩ p.free ≠ none := by
  unfold Operation.answer release
  by_cases hout : count = 0 ∨ p.size < base + count
  · rw [if_pos hout]
    exact iff_of_false nofun fun h => by omega
  · rw [if_neg hout]
    cases Span.insert ⟨base, base + count⟩ p.free with
    | none => exact iff_of_false nofun fun h => h.2.2 rfl
    | some l => exact iff_of_true rfl ⟨by omega, by omega, nofun⟩

theorem release_error {e : Error} (h : p.release base count = .error e q) : q = p := by
  unfold release at h
  split at h
  · cases h
    rfl
  · split at h
    · cases h
    · cases h
      rfl

end SpanPool

/-! ### Requests -/

/-- Something that can be asked of a pool. -/
inductive SpanRequest where
  | alloc (count : Nat)
  | release (base count : Nat)

/-- Whether a request does not fail. -/
def SpanRequest.succeeds : SpanRequest → SpanPool → Bool
  | alloc count, p => (Operation.answer (SpanPool.alloc count) p).isOk
  | release base count, p => (Operation.answer (SpanPool.release base count) p).isOk

/-- What some requests have led to: the pool, and the places that its answers leave free. -/
structure PlaceRun where
  pool : SpanPool
  free : Finset Nat

namespace PlaceRun

variable {r : PlaceRun} {name : String} {size base count : Nat} {requests : List SpanRequest}

/-- Nothing has been asked yet, and every place is free. -/
def start (name : String) (size : Nat) : PlaceRun := ⟨.fresh name size, Finset.range size⟩

/-- A request that succeeds takes its places from the free ones or adds them. -/
def call (r : PlaceRun) : SpanRequest → PlaceRun
  | .alloc count =>
    match r.pool.alloc count with
    | .ok base pool => ⟨pool, r.free \ Finset.Ico base (base + count)⟩
    | .error _ pool => ⟨pool, r.free⟩
  | .release base count =>
    match r.pool.release base count with
    | .ok _ pool => ⟨pool, r.free ∪ Finset.Ico base (base + count)⟩
    | .error _ pool => ⟨pool, r.free⟩

theorem call_alloc_ok {pool : SpanPool} (h : r.pool.alloc count = .ok base pool) :
    r.call (.alloc count) = ⟨pool, r.free \ Finset.Ico base (base + count)⟩ := by
  simp only [call, h]

theorem call_alloc_error {pool : SpanPool} {e : Error} (h : r.pool.alloc count = .error e pool) :
    r.call (.alloc count) = r := by
  simp only [call, h, SpanPool.Tracks.alloc_error h]

theorem call_release_ok {pool : SpanPool} (h : r.pool.release base count = .ok () pool) :
    r.call (.release base count) = ⟨pool, r.free ∪ Finset.Ico base (base + count)⟩ := by
  simp only [call, h]

theorem call_release_error {pool : SpanPool} {e : Error}
    (h : r.pool.release base count = .error e pool) : r.call (.release base count) = r := by
  simp only [call, h, SpanPool.release_error h]

/-- A request that fails has left the pool and the places alone. -/
theorem call_of_fails {request : SpanRequest} (h : request.succeeds r.pool = false) :
    r.call request = r := by
  cases request with
  | alloc count =>
      cases he : r.pool.alloc count with
      | ok base pool =>
          simp [SpanRequest.succeeds, Operation.answer, he, Except.isOk, Except.toBool] at h
      | error e pool => exact call_alloc_error he
  | release base count =>
      cases he : r.pool.release base count with
      | ok _ pool =>
          simp [SpanRequest.succeeds, Operation.answer, he, Except.isOk, Except.toBool] at h
      | error e pool => exact call_release_error he

/-- The run of some requests, on a fresh pool. -/
def of (name : String) (size : Nat) (requests : List SpanRequest) : PlaceRun :=
  requests.foldl call (start name size)

/-- The pool is the set of free places, and hands out the lowest of them that are enough. -/
structure Refines (name : String) (size : Nat) (r : PlaceRun) : Prop where
  /-- The spans are in increasing order, and no two of them overlap or touch. -/
  ordered : r.pool.free.Pairwise fun s t => s.high < t.low
  /-- The spans are the maximal runs of the free places. -/
  runs : ∀ s, s ∈ r.pool.free ↔ Span.Maximal (· ∈ r.free) s
  inside : ∀ s ∈ r.pool.free, s.high ≤ size
  /-- What is handed out is the lowest run of free places. -/
  lowest : ∀ count base, 1 ≤ count → count ≤ size →
    (Operation.answer (SpanPool.alloc count) r.pool = .ok base ↔
      IsLeast {b | Finset.Ico b (b + count) ⊆ r.free} base)
  /-- There is no room exactly if there is no run of free places. -/
  full : ∀ count, 1 ≤ count → count ≤ size →
    (Operation.answer (SpanPool.alloc count) r.pool = .error (.full (.table name)) ↔
      ∀ b, ¬ Finset.Ico b (b + count) ⊆ r.free)
  /-- A number of places that no pool of this size ever has is refused. -/
  refused : ∀ count, count = 0 ∨ size < count →
    Operation.answer (SpanPool.alloc count) r.pool = .error (.invalid (.spanCount name count))
  /-- Places are taken back exactly if there are any, inside the pool, and none of them is free. -/
  returned : ∀ base count, Operation.answer (SpanPool.release base count) r.pool = .ok () ↔
    0 < count ∧ base + count ≤ size ∧ Disjoint (Finset.Ico base (base + count)) r.free
  /-- A request that fails changes nothing. -/
  unchanged : ∀ request : SpanRequest, request.succeeds r.pool = false → r.call request = r
  counted : r.pool.freeCount = r.free.card
  used : ∀ base count, base + count ≤ size →
    (r.pool.isUsed base count = true ↔ ∃ n ∈ Finset.Ico base (base + count), n ∉ r.free)

/-- What each request keeps: the places that are out are those which are not free. -/
structure Kept (name : String) (size : Nat) (r : PlaceRun) : Prop where
  name_eq : r.pool.name = name
  tracks : r.pool.Tracks size (· ∉ r.free)
  within : ∀ n ∈ r.free, n < size

theorem kept_start (h : 0 < size) : (start name size).Kept name size where
  name_eq := rfl
  tracks := (SpanPool.Tracks.fresh h).congr fun n hn => by simp [start, hn]
  within _ := List.mem_range.mp

namespace Kept

theorem isFree_iff (h : r.Kept name size) (n : Nat) : r.pool.IsFree n ↔ n ∈ r.free := by
  rw [h.tracks.isFree_iff, not_not]
  exact and_iff_right_of_imp (h.within n)

theorem covers_eq (h : r.Kept name size) : Span.Covers r.pool.free = (· ∈ r.free) :=
  funext fun n => propext (h.isFree_iff n)

theorem covers_iff_subset (h : r.Kept name size) :
    (∀ n, base ≤ n → n < base + count → Span.Covers r.pool.free n) ↔
      Finset.Ico base (base + count) ⊆ r.free := by
  rw [h.covers_eq]
  simp only [Finset.subset_iff, Finset.mem_Ico, and_imp]

/-! ### One request -/

theorem alloc (h : r.Kept name size) (count : Nat) : (r.call (.alloc count)).Kept name size := by
  cases he : r.pool.alloc count with
  | ok base pool =>
      obtain ⟨hname, -, -, htracks⟩ := h.tracks.alloc_ok he
      rw [call_alloc_ok he]
      refine ⟨hname.trans h.name_eq, htracks.congr fun n _ => ?_, fun n hn => ?_⟩
      · rw [Finset.mem_sdiff, Finset.mem_Ico]
        tauto
      · exact h.within n (Finset.mem_sdiff.mp hn).1
  | error e pool => rwa [call_alloc_error he]

theorem insert_ne_none_iff (h : r.Kept name size) (hc : 0 < count) :
    Span.insert ⟨base, base + count⟩ r.pool.free ≠ none ↔
      Disjoint (Finset.Ico base (base + count)) r.free := by
  have hspan : (⟨base, base + count⟩ : Span).low < (⟨base, base + count⟩ : Span).high :=
    Nat.lt_add_of_pos_right hc
  rw [ne_eq, h.tracks.separate.insert_eq_none_iff hspan, h.covers_eq, Finset.disjoint_left]
  simp only [Span.Holds, Finset.mem_Ico, not_exists, not_and]

theorem release_ok_iff (h : r.Kept name size) (base count : Nat) :
    Operation.answer (SpanPool.release base count) r.pool = .ok () ↔
      0 < count ∧ base + count ≤ size ∧ Disjoint (Finset.Ico base (base + count)) r.free := by
  rw [SpanPool.answer_release_ok_iff, h.tracks.size_eq]
  exact and_congr_right fun hc => and_congr_right fun _ => h.insert_ne_none_iff hc

theorem release (h : r.Kept name size) (base count : Nat) :
    (r.call (.release base count)).Kept name size := by
  cases he : r.pool.release base count with
  | ok _ pool =>
      have hanswer : Operation.answer (SpanPool.release base count) r.pool = .ok () := by
        rw [Operation.answer, he]
      obtain ⟨hc, hin, hout⟩ := (h.release_ok_iff base count).mp hanswer
      obtain ⟨q, hq, hname, htracks⟩ := h.tracks.release hc hin fun n h1 h2 =>
        Finset.disjoint_left.mp hout (Finset.mem_Ico.mpr ⟨h1, h2⟩)
      cases he.symm.trans hq
      rw [call_release_ok he]
      refine ⟨hname.trans h.name_eq, htracks.congr fun n _ => ?_, fun n hn => ?_⟩
      · rw [Finset.mem_union, Finset.mem_Ico, not_or]
      · rcases Finset.mem_union.mp hn with hn | hn
        · exact h.within n hn
        · have := Finset.mem_Ico.mp hn
          omega
  | error e pool => rwa [call_release_error he]

theorem call (h : r.Kept name size) (request : SpanRequest) : (r.call request).Kept name size := by
  cases request with
  | alloc count => exact h.alloc count
  | release base count => exact h.release base count

/-! ### What a pool answers -/

theorem lowest (h : r.Kept name size) (hc : 1 ≤ count) (hs : count ≤ size) :
    Operation.answer (SpanPool.alloc count) r.pool = .ok base ↔
      IsLeast {b | Finset.Ico b (b + count) ⊆ r.free} base := by
  have hl := h.tracks.separate
  rw [SpanPool.answer_alloc_ok_iff hc (h.tracks.size_eq ▸ hs)]
  -- the answer is a least run, and there is only one such
  have hleast {b : Nat} {l : List Span} (ht : Span.takeFirst count r.pool.free = some (b, l)) :
      IsLeast {b | Finset.Ico b (b + count) ⊆ r.free} b :=
    ⟨h.covers_iff_subset.mp (Span.takeFirst_spec hl hc ht).2.1,
      fun _ hb => hl.le_of_takeFirst hc ht (h.covers_iff_subset.mpr hb)⟩
  refine ⟨fun ⟨_, ht⟩ => hleast ht, fun hbase => ?_⟩
  cases ht : Span.takeFirst count r.pool.free with
  | none => exact absurd (h.covers_iff_subset.mpr hbase.1) ((hl.takeFirst_eq_none_iff hc).mp ht base)
  | some first =>
      obtain ⟨b, l⟩ := first
      exact ⟨l, by rw [(hleast ht).unique hbase]⟩

theorem full (h : r.Kept name size) (hc : 1 ≤ count) (hs : count ≤ size) :
    Operation.answer (SpanPool.alloc count) r.pool = .error (.full (.table name)) ↔
      ∀ b, ¬ Finset.Ico b (b + count) ⊆ r.free := by
  rw [← h.name_eq, SpanPool.answer_alloc_full_iff hc (h.tracks.size_eq ▸ hs),
    h.tracks.separate.takeFirst_eq_none_iff hc]
  exact forall_congr' fun b => not_congr h.covers_iff_subset

theorem refused (h : r.Kept name size) (hout : count = 0 ∨ size < count) :
    Operation.answer (SpanPool.alloc count) r.pool = .error (.invalid (.spanCount name count)) := by
  rw [← h.tracks.size_eq] at hout
  rw [← h.name_eq, Operation.answer, SpanPool.alloc, if_pos hout]

theorem used (h : r.Kept name size) (hlimit : size ≤ SpanPool.placeLimit) (hin : base + count ≤ size) :
    r.pool.isUsed base count = true ↔ ∃ n ∈ Finset.Ico base (base + count), n ∉ r.free := by
  have hmin : min (base + count) SpanPool.placeLimit = base + count :=
    Nat.min_eq_left (Nat.le_trans hin hlimit)
  rw [SpanPool.isUsed, hmin, List.any_eq_true]
  simp only [List.mem_range'_1, Bool.not_eq_true', decide_eq_false_iff_not, h.isFree_iff,
    Finset.mem_Ico]
  refine exists_congr fun n => and_congr_left fun _ => ?_
  omega

end Kept

theorem Kept.refines (h : r.Kept name size) (hlimit : size ≤ SpanPool.placeLimit) :
    r.Refines name size where
  ordered := h.tracks.separate.gaps
  runs s := by
    rw [h.tracks.separate.mem_iff, h.covers_eq]
  inside s hs := by
    have hmax := h.tracks.separate.maximal hs
    rw [h.covers_eq] at hmax
    have := hmax.nonempty
    have := h.within _ (hmax.within (s.high - 1) ⟨by omega, by omega⟩)
    omega
  lowest _ _ := h.lowest
  full _ := h.full
  refused _ := h.refused
  returned := h.release_ok_iff
  unchanged _ := call_of_fails
  counted := h.tracks.separate.card_eq fun n => (h.isFree_iff n).symm
  used _ _ := h.used hlimit

end PlaceRun

/-- After every list of requests, with any arguments, a pool is the set of places that its answers left
free: it keeps their maximal runs in order, hands out the lowest places in a row, and takes back what is
out. -/
theorem spans_refine_places {size : Nat} (name : String) (h : 1 ≤ size)
    (hlimit : size ≤ SpanPool.placeLimit) (requests : List SpanRequest) :
    (PlaceRun.of name size requests).Refines name size := by
  have hrun (r : PlaceRun) (hr : r.Kept name size) : (requests.foldl PlaceRun.call r).Kept name size := by
    induction requests generalizing r with
    | nil => exact hr
    | cons request requests ih => exact ih _ (hr.call request)
  exact (hrun _ (PlaceRun.kept_start h)).refines hlimit

/-- Two runs of four places are left, so there are eight, and no room for eight in a row. -/
theorem spans_refine_places_fragmented :
    let requests : List SpanRequest := [.alloc 4, .alloc 4, .alloc 4, .release 8 4, .release 0 4]
    let r := PlaceRun.of "l3_ecmp" 12 requests
    1 ≤ 12 ∧ 12 ≤ SpanPool.placeLimit ∧ r.pool.free = [⟨0, 4⟩, ⟨8, 12⟩] ∧ r.pool.freeCount = 8 ∧
      Operation.answer (SpanPool.alloc 8) r.pool = .error (.full (.table "l3_ecmp")) ∧
      r.Refines "l3_ecmp" 12 :=
  ⟨by decide, by decide, rfl, rfl, rfl, spans_refine_places "l3_ecmp" (by decide) (by decide) _⟩

end ControlPlane
