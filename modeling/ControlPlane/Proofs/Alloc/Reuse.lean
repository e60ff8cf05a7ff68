import ControlPlane.Proofs.Alloc.NextFit
import ControlPlane.Proofs.Runs

/-! # When an index is handed out again

The hardware may still use an index that was just given back, so the pool hands out others first: the
cursor was left just past the index, and the search comes to it again only after it has been to every other
index of the range.  An index that the search has been to was handed out then, or was out and passed over.

* `HandsOut` and `PassesOver` say what the request at some place of a run does with an index.
* **Step.**  `Swept.step`: the search has been to every index between the one it started from and the cursor,
  unless it has already been to all.
* **Run.**  `index_reused_last`: before an index is handed out again, every other one has been out. -/

namespace ControlPlane

namespace IndexRun

variable {range : IndexRange} {requests : List IndexRequest} {i j k n m q : Nat}

variable (range requests) in
/-- The run of the requests before one. -/
def before (k : Nat) : IndexRun := of range (requests.take k)

variable (range requests) in
/-- Request `k` hands out index `n`. -/
def HandsOut (k n : Nat) : Prop := requests[k]? = some .alloc ∧
  Operation.answer IndexPool.alloc (before range requests k).pool = .ok n

instance (range : IndexRange) (requests : List IndexRequest) (k n : Nat) :
    Decidable (HandsOut range requests k n) :=
  inferInstanceAs (Decidable (_ ∧ _))

variable (range requests) in
/-- Request `k` finds that index `m` is out, on its way from the cursor to the one that it hands out. -/
def PassesOver (k m : Nat) : Prop := ∃ n, HandsOut range requests k n ∧
  range.ahead (before range requests k).pool.cursor m < range.ahead (before range requests k).pool.cursor n ∧
  (before range requests k).pool.contains m = true

variable (range requests) in
/-- The search has been to index `m`, after request `i` and before request `k`. -/
def Seen (i k m : Nat) : Prop :=
  ∃ l, i < l ∧ l < k ∧ (HandsOut range requests l m ∨ PassesOver range requests l m)

variable (range requests) in
/-- Since request `i`, the search has been from just past `n` to the cursor, if not all the way around. -/
def Swept (i n k : Nat) : Prop :=
  (∀ m, range.Holds m → m ≠ n → Seen range requests i k m) ∨
    ∀ m, range.Holds m → range.ahead (range.next n) m <
      range.ahead (range.next n) (before range requests k).pool.cursor → Seen range requests i k m

theorem Seen.mono {k' : Nat} (h : Seen range requests i k m) (hk : k ≤ k') :
    Seen range requests i k' m := by
  obtain ⟨l, hi, hl, hseen⟩ := h
  exact ⟨l, hi, Nat.lt_of_lt_of_le hl hk, hseen⟩

/-! ### One request -/

theorem before_succ {request : IndexRequest} (hk : requests[k]? = some request) :
    before range requests (k + 1) = (before range requests k).call request :=
  foldl_take_succ call (start range) hk

section

variable (h : range.first < range.stop)

include h

theorem before_kept (k : Nat) : (before range requests k).Kept range := of_kept h _

theorem holds_cursor (k : Nat) : range.Holds (before range requests k).pool.cursor :=
  (before_kept h k).tracks.cursor_mem

theorem HandsOut.first (hq : HandsOut range requests k q) :
    range.First (before range requests k).pool.cursor (· ∉ (before range requests k).out) q :=
  ((before_kept h k).handed q).mp hq.2

/-- An index that is handed out is out, and the cursor is just past it. -/
theorem HandsOut.succ (hq : HandsOut range requests k q) :
    (before range requests (k + 1)).pool.contains q = true ∧
      (before range requests (k + 1)).pool.cursor = range.next q := by
  obtain ⟨hcontains, hcursor⟩ := (before_kept h k).taken hq.2
  rw [before_succ hq.1]
  exact ⟨(hcontains q).mpr (.inl rfl), hcursor⟩

/-- A request that hands out nothing leaves the cursor where it is. -/
theorem cursor_succ (hnone : ∀ q, ¬ HandsOut range requests k q) :
    (before range requests (k + 1)).pool.cursor = (before range requests k).pool.cursor := by
  cases hk : requests[k]? with
  | none =>
      have hlen : requests.length ≤ k := List.getElem?_eq_none_iff.mp hk
      rw [before, before, List.take_of_length_le hlen, List.take_of_length_le (by omega)]
  | some request =>
      rw [before_succ hk]
      cases request with
      | alloc =>
          obtain ⟨n, -, hanswer, -⟩ | ⟨-, -, hcall⟩ := (before_kept h k).alloc_cases
          · exact absurd ⟨hk, hanswer⟩ (hnone n)
          · rw [hcall]
      | free n =>
          obtain ⟨-, -, hcall⟩ | ⟨-, -, hcall⟩ | ⟨-, -, hcall⟩ := (before_kept h k).free_cases n
          · rw [hcall]
            rfl
          · rw [hcall]
          · rw [hcall]
      | contains n => rfl

/-- The search has been to what is no farther than what it ends at. -/
theorem HandsOut.seen (hq : HandsOut range requests k q) (hi : i < k) (hm : range.Holds m)
    (hle : range.ahead (before range requests k).pool.cursor m ≤
      range.ahead (before range requests k).pool.cursor q) : Seen range requests i (k + 1) m := by
  obtain ⟨hholds, -, hfirst⟩ := hq.first h
  refine ⟨k, hi, Nat.lt_succ_self k, ?_⟩
  rcases Nat.eq_or_lt_of_le hle with heq | hlt
  · rw [IndexRange.ahead_inj (holds_cursor h k) hm hholds heq]
    exact .inl hq
  · refine .inr ⟨q, hq, hlt, ((before_kept h k).tracks.contains_iff m).mpr ?_⟩
    by_contra hfree
    exact absurd (hfirst m hm hfree) (Nat.not_le_of_lt hlt)

/-- A search from the cursor goes on from where the others ended, and it may go past the last one. -/
theorem HandsOut.sweeps (hq : HandsOut range requests k q) (hi : i < k) (hn : range.Holds n)
    (hswept : ∀ m, range.Holds m → range.ahead (range.next n) m <
      range.ahead (range.next n) (before range requests k).pool.cursor → Seen range requests i k m)
    (hm : range.Holds m)
    (hon : range.ahead (range.next n) m ≤ range.ahead (range.next n) q ∨
      range.ahead (range.next n) q <
        range.ahead (range.next n) (before range requests k).pool.cursor) :
    Seen range requests i (k + 1) m := by
  have hs := IndexRange.holds_next hn
  have hc : range.Holds (before range requests k).pool.cursor := holds_cursor h k
  have hqr := (hq.first h).holds
  by_cases hlt : range.ahead (range.next n) m <
      range.ahead (range.next n) (before range requests k).pool.cursor
  · exact (hswept m hm hlt).mono (Nat.le_succ k)
  · -- `m` is past the cursor, so it is this search that comes to it, also if it ends beyond `n`
    refine hq.seen h hi hm ?_
    have hmc := IndexRange.ahead_of_le hs hc hm (Nat.le_of_not_lt hlt)
    by_cases hwrap : range.ahead (range.next n) q <
        range.ahead (range.next n) (before range requests k).pool.cursor
    · have hqc := IndexRange.ahead_of_lt hs hc hqr hwrap
      have hsize := IndexRange.ahead_lt hs hm
      omega
    · have hqc := IndexRange.ahead_of_le hs hc hqr (Nat.le_of_not_lt hwrap)
      omega

/-- When the index is handed out again, the search has been to all others. -/
theorem Swept.all (hswept : Swept range requests i n k) (hi : i < k) (hn : HandsOut range requests k n)
    (hm : range.Holds m) (hne : m ≠ n) : Seen range requests i (k + 1) m := by
  rcases hswept with hall | hsome
  · exact (hall m hm hne).mono (Nat.le_succ k)
  · have hnr := (hn.first h).holds
    refine hn.sweeps h hi hnr hsome hm (.inl ?_)
    have hlast := IndexRange.ahead_next_self hnr
    have hlt := IndexRange.ahead_lt (IndexRange.holds_next hnr) hm
    omega

/-- Each request leaves it so that the search has been to all indices up to the cursor. -/
theorem Swept.step (hswept : Swept range requests i n k) (hi : i < k) (hn : range.Holds n) :
    Swept range requests i n (k + 1) := by
  by_cases hnone : ∀ q, ¬ HandsOut range requests k q
  · rw [Swept, cursor_succ h hnone]
    exact hswept.imp (fun hall m hm hne => (hall m hm hne).mono (Nat.le_succ k))
      fun hsome m hm hlt => (hsome m hm hlt).mono (Nat.le_succ k)
  · obtain ⟨q, hq⟩ := not_forall_not.mp hnone
    by_cases hqn : q = n
    · subst hqn
      exact .inl fun m hm hne => hswept.all h hi hq hm hne
    · rcases hswept with hall | hsome
      · exact .inl fun m hm hne => (hall m hm hne).mono (Nat.le_succ k)
      · by_cases hwrap : range.ahead (range.next n) q <
            range.ahead (range.next n) (before range requests k).pool.cursor
        · exact .inl fun m hm _ => hq.sweeps h hi hn hsome hm (.inr hwrap)
        · refine .inr fun m hm hlt => hq.sweeps h hi hn hsome hm (.inl ?_)
          rw [(hq.succ h).2, IndexRange.ahead_next_of_ne hn (hq.first h).holds hqn] at hlt
          omega

/-! ### From one to the next -/

theorem swept (hn : HandsOut range requests i n) (hk : i < k) : Swept range requests i n k := by
  have hnr := (hn.first h).holds
  induction k with
  | zero => omega
  | succ k ih =>
      rcases Nat.eq_or_lt_of_le (Nat.le_of_lt_succ hk) with rfl | hlt
      · refine .inr fun m _ hlt => ?_
        rw [(hn.succ h).2, IndexRange.ahead_self] at hlt
        exact absurd hlt (Nat.not_lt_zero _)
      · exact (ih hlt).step h hlt hnr

end

end IndexRun

/-- Before an index is handed out again, the search has been to every other index of the range: it was handed
out in between, or was out and passed over.  So if some other index has been free since the index was handed
out, then that index is not the next one. -/
theorem index_reused_last (range : IndexRange) (h : range.first < range.stop)
    (requests : List IndexRequest) {i j n : Nat} (hij : i < j)
    (hi : IndexRun.HandsOut range requests i n) :
    (IndexRun.HandsOut range requests j n → ∀ m, range.Holds m → m ≠ n →
      ((∃ k, i < k ∧ k < j ∧ IndexRun.HandsOut range requests k m) ∨
        ∃ k, i < k ∧ k ≤ j ∧ IndexRun.PassesOver range requests k m) ∧
      ∃ k, i < k ∧ k ≤ j ∧ (IndexRun.before range requests k).pool.contains m = true) ∧
    ((∃ m, range.Holds m ∧ m ≠ n ∧
        ∀ k, i < k → k ≤ j → (IndexRun.before range requests k).pool.contains m = false) →
      ¬ IndexRun.HandsOut range requests j n) := by
  have hagain (hj : IndexRun.HandsOut range requests j n) (m : Nat) (hm : range.Holds m) (hne : m ≠ n) :
      (∃ k, i < k ∧ k < j ∧ IndexRun.HandsOut range requests k m) ∨
        ∃ k, i < k ∧ k ≤ j ∧ IndexRun.PassesOver range requests k m := by
    obtain ⟨k, hik, hkj, hout | hover⟩ := (IndexRun.swept h hi hij).all h hij hj hm hne
    · refine .inl ⟨k, hik, Nat.lt_of_le_of_ne (Nat.le_of_lt_succ hkj) ?_, hout⟩
      rintro rfl
      exact hne (Except.ok.inj (hout.2.symm.trans hj.2))
    · exact .inr ⟨k, hik, Nat.le_of_lt_succ hkj, hover⟩
  have hheld (hj : IndexRun.HandsOut range requests j n) (m : Nat) (hm : range.Holds m) (hne : m ≠ n) :
      ∃ k, i < k ∧ k ≤ j ∧ (IndexRun.before range requests k).pool.contains m = true := by
    obtain ⟨k, hik, hkj, hout⟩ | ⟨k, hik, hkj, _, _, _, hover⟩ := hagain hj m hm hne
    · exact ⟨k + 1, Nat.lt_succ_of_lt hik, hkj, (hout.succ h).1⟩
    · exact ⟨k, hik, hkj, hover⟩
  refine ⟨fun hj m hm hne => ⟨hagain hj m hm hne, hheld hj m hm hne⟩, ?_⟩
  rintro ⟨m, hm, hne, hfree⟩ hj
  obtain ⟨k, hik, hkj, hout⟩ := hheld hj m hm hne
  rw [hfree k hik hkj] at hout
  cases hout

/-- Index 1 is handed out again by the last request: index 2 was passed over by it, and index 3 was handed out
in between. -/
theorem index_reused_last_cycled :
    let range : IndexRange := ⟨"tiny", 1, 4⟩
    let requests : List IndexRequest := [.alloc, .alloc, .alloc, .free 1, .alloc, .free 1, .free 3, .alloc,
      .free 3, .alloc]
    IndexRun.HandsOut range requests 4 1 ∧ IndexRun.HandsOut range requests 9 1 ∧
      ∃ k, 4 < k ∧ k ≤ 9 ∧ (IndexRun.before range requests k).pool.contains 2 = true := by
  intro range requests
  have hi : IndexRun.HandsOut range requests 4 1 := by decide +kernel
  have hj : IndexRun.HandsOut range requests 9 1 := by decide +kernel
  have hlast := (index_reused_last range (by decide) requests (by decide) hi).1 hj 2 (by decide) (by decide)
  exact ⟨hi, hj, hlast.2⟩

end ControlPlane
