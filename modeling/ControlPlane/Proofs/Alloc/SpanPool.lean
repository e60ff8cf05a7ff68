import ControlPlane.Alloc.SpanPool
import Mathlib.Tactic.Common

/-! # Which places a pool has out

A pool keeps its free places as spans that are in order and do not touch (`Span.Separate`).  Such a
list is fixed by the places it covers (`Separate.ext`), so the whole state of a pool is the set of
places that are out: `SpanPool.Tracks p size taken` says that these are the places below `size` of
which `taken` holds.

* **Handing out.**  `Tracks.alloc_ok` says that the places handed out were free and are out now.
* **Giving back.**  `Tracks.release` says that places which are out are always taken back, and
  `Tracks.release_alloc` that giving back what was just handed out restores the list of free spans. -/

namespace ControlPlane

namespace Span

variable {s t : Span} {l l' : List Span} {n : Nat}

/-- A place is in one of the spans. -/
def Covers (l : List Span) (n : Nat) : Prop := ∃ s ∈ l, s.Holds n

/-- Spans with something in each of them, in order, and with a gap between any two. -/
structure Separate (l : List Span) : Prop where
  nonempty : ∀ s ∈ l, s.low < s.high
  gaps : l.Pairwise fun s t => s.high < t.low

theorem covers_nil : ¬ Covers [] n := by
  rintro ⟨s, hs, -⟩
  cases hs

theorem covers_cons : Covers (s :: l) n ↔ s.Holds n ∨ Covers l n := by
  simp [Covers]

theorem separate_cons :
    Separate (s :: l) ↔ s.low < s.high ∧ (∀ t ∈ l, s.high < t.low) ∧ Separate l := by
  constructor
  · rintro ⟨h1, h2⟩
    obtain ⟨h3, h4⟩ := List.pairwise_cons.mp h2
    exact ⟨h1 s List.mem_cons_self, h3, fun t ht => h1 t (List.mem_cons_of_mem _ ht), h4⟩
  · rintro ⟨h1, h2, h3, h4⟩
    refine ⟨?_, List.pairwise_cons.mpr ⟨h2, h4⟩⟩
    intro t ht
    rcases List.mem_cons.mp ht with rfl | ht
    · exact h1
    · exact h3 t ht

theorem lt_of_covers {b : Nat} (hb : ∀ t ∈ l, b < t.low) (h : Covers l n) : b < n := by
  obtain ⟨t, ht, h1, -⟩ := h
  have := hb t ht
  omega

/-- The first span of a separate list ends where the places covered from its start on end. -/
theorem Separate.not_covers_high (h : Separate (s :: l)) : ¬ Covers (s :: l) s.high := by
  obtain ⟨-, h2, -⟩ := separate_cons.mp h
  rw [covers_cons]
  rintro (⟨-, h⟩ | h)
  · omega
  · have := lt_of_covers h2 h
    omega

/-- Separate lists that cover the same places are the same. -/
theorem Separate.ext (h : Separate l) (h' : Separate l') (hc : ∀ n, Covers l n ↔ Covers l' n) :
    l = l' := by
  induction l generalizing l' with
  | nil =>
      cases l' with
      | nil => rfl
      | cons t l' =>
          have ht := (separate_cons.mp h').1
          exact absurd ((hc t.low).mpr (covers_cons.mpr (.inl ⟨Nat.le_refl _, ht⟩))) covers_nil
  | cons s l ih =>
      cases l' with
      | nil =>
          have hs := (separate_cons.mp h).1
          exact absurd ((hc s.low).mp (covers_cons.mpr (.inl ⟨Nat.le_refl _, hs⟩))) covers_nil
      | cons t l' =>
          obtain ⟨s1, s2, s3⟩ := separate_cons.mp h
          obtain ⟨t1, t2, t3⟩ := separate_cons.mp h'
          have hs : Covers (t :: l') s.low := (hc _).mp (covers_cons.mpr (.inl ⟨Nat.le_refl _, s1⟩))
          have ht : Covers (s :: l) t.low := (hc _).mpr (covers_cons.mpr (.inl ⟨Nat.le_refl _, t1⟩))
          have elow : s.low = t.low := by
            rcases covers_cons.mp hs with ⟨_, _⟩ | hs
            · rcases covers_cons.mp ht with ⟨_, _⟩ | ht
              · omega
              · have := lt_of_covers s2 ht
                omega
            · have := lt_of_covers t2 hs
              rcases covers_cons.mp ht with ⟨_, _⟩ | ht
              · omega
              · have := lt_of_covers s2 ht
                omega
          have ehigh : s.high = t.high := by
            rcases Nat.lt_trichotomy s.high t.high with hlt | he | hlt
            · exact absurd ((hc _).mpr (covers_cons.mpr (.inl ⟨by omega, hlt⟩))) h.not_covers_high
            · exact he
            · exact absurd ((hc _).mp (covers_cons.mpr (.inl ⟨by omega, hlt⟩))) h'.not_covers_high
          have e : s = t := by
            cases s
            cases t
            simp only [mk.injEq]
            exact ⟨elow, ehigh⟩
          subst e
          rw [ih s3 t3]
          intro n
          have hn := hc n
          rw [covers_cons, covers_cons] at hn
          constructor
          · intro h
            have := lt_of_covers s2 h
            rcases hn.mp (.inr h) with ⟨_, _⟩ | h
            · omega
            · exact h
          · intro h
            have := lt_of_covers t2 h
            rcases hn.mpr (.inr h) with ⟨_, _⟩ | h
            · omega
            · exact h

/-! ### Taking places out -/

theorem takeFirst_low {count base b : Nat} (hb : ∀ t ∈ l, b < t.low)
    (h : takeFirst count l = some (base, l')) : ∀ t ∈ l', b < t.low := by
  induction l generalizing base l' with
  | nil => cases h
  | cons s l ih =>
      have hs := hb s List.mem_cons_self
      have hl : ∀ t ∈ l, b < t.low := fun t ht => hb t (List.mem_cons_of_mem _ ht)
      rw [takeFirst] at h
      split at h
      · cases h
        exact List.forall_mem_cons.mpr ⟨by simp only; omega, hl⟩
      · split at h
        · cases h
          exact hl
        · obtain ⟨⟨base', l''⟩, he, h⟩ := Option.map_eq_some_iff.mp h
          cases h
          exact List.forall_mem_cons.mpr ⟨hs, ih hl he⟩

/-- What is taken was covered, and the rest covers all else. -/
theorem takeFirst_spec {count base : Nat} (hl : Separate l) (hc : 0 < count)
    (h : takeFirst count l = some (base, l')) :
    Separate l' ∧ (∀ n, base ≤ n → n < base + count → Covers l n) ∧
      ∀ n, Covers l' n ↔ Covers l n ∧ ¬ (base ≤ n ∧ n < base + count) := by
  induction l generalizing base l' with
  | nil => cases h
  | cons s l ih =>
      obtain ⟨s1, s2, s3⟩ := separate_cons.mp hl
      rw [takeFirst] at h
      split at h
      · rename_i hlt
        cases h
        unfold size at hlt
        refine ⟨separate_cons.mpr ⟨by simp only; omega, s2, s3⟩, ?_, ?_⟩
        · intro n h1 h2
          exact covers_cons.mpr (.inl ⟨h1, by omega⟩)
        · intro n
          rw [covers_cons, covers_cons]
          constructor
          · rintro (⟨h1, h2⟩ | h)
            · simp only at h1 h2
              exact ⟨.inl ⟨by omega, h2⟩, by omega⟩
            · have := lt_of_covers s2 h
              exact ⟨.inr h, by omega⟩
          · rintro ⟨⟨h1, h2⟩ | h, hn⟩
            · exact .inl ⟨by simp only; omega, h2⟩
            · exact .inr h
      · split at h
        · rename_i hne he
          cases h
          unfold size at he
          refine ⟨s3, ?_, ?_⟩
          · intro n h1 h2
            exact covers_cons.mpr (.inl ⟨h1, by omega⟩)
          · intro n
            rw [covers_cons]
            constructor
            · intro h
              have := lt_of_covers s2 h
              exact ⟨.inr h, by omega⟩
            · rintro ⟨⟨h1, h2⟩ | h, hn⟩
              · omega
              · exact h
        · obtain ⟨⟨base', l''⟩, he, h⟩ := Option.map_eq_some_iff.mp h
          cases h
          obtain ⟨i1, i2, i3⟩ := ih s3 he
          refine ⟨separate_cons.mpr ⟨s1, takeFirst_low s2 he, i1⟩, ?_, ?_⟩
          · intro n h1 h2
            exact covers_cons.mpr (.inr (i2 n h1 h2))
          · intro n
            rw [covers_cons, covers_cons, i3]
            constructor
            · rintro (⟨h1, h2⟩ | ⟨h, hn⟩)
              · refine ⟨.inl ⟨h1, h2⟩, fun ⟨hb1, hb2⟩ => ?_⟩
                have := lt_of_covers s2 (i2 n hb1 hb2)
                omega
              · exact ⟨.inr h, hn⟩
            · rintro ⟨⟨h1, h2⟩ | h, hn⟩
              · exact .inl ⟨h1, h2⟩
              · exact .inr ⟨h, hn⟩

/-! ### Putting places in -/

theorem join_low {b : Nat} (hs : b ≤ s.low) (hl : ∀ t ∈ l, b ≤ t.low) :
    ∀ t ∈ join s l, b ≤ t.low := by
  cases l with
  | nil => simpa [join] using hs
  | cons t r =>
      have hr : ∀ u ∈ r, b ≤ u.low := fun u hu => hl u (List.mem_cons_of_mem _ hu)
      rw [join]
      split
      · exact List.forall_mem_cons.mpr ⟨hs, hr⟩
      · exact List.forall_mem_cons.mpr ⟨hs, hl⟩

theorem join_spec (hs : s.low < s.high) (hl : Separate l) (hle : ∀ t ∈ l, s.high ≤ t.low) :
    Separate (join s l) ∧ ∀ n, Covers (join s l) n ↔ s.Holds n ∨ Covers l n := by
  cases l with
  | nil =>
      refine ⟨⟨by simpa [join] using hs, by simp [join]⟩, fun n => ?_⟩
      rw [join, covers_cons]
  | cons t r =>
      obtain ⟨t1, t2, t3⟩ := separate_cons.mp hl
      have hst := hle t List.mem_cons_self
      rw [join]
      split
      · rename_i he
        refine ⟨separate_cons.mpr ⟨by simp only; omega, t2, t3⟩, fun n => ?_⟩
        rw [covers_cons, covers_cons, ← or_assoc]
        refine or_congr ?_ Iff.rfl
        unfold Holds
        simp only
        omega
      · refine ⟨separate_cons.mpr ⟨hs, ?_, hl⟩, fun n => covers_cons⟩
        refine List.forall_mem_cons.mpr ⟨by omega, fun u hu => ?_⟩
        have := t2 u hu
        omega

theorem insert_low {b : Nat} (hs : b ≤ s.low) (hl : ∀ t ∈ l, b ≤ t.low)
    (h : insert s l = some l') : ∀ t ∈ l', b ≤ t.low := by
  induction l generalizing l' with
  | nil =>
      cases h
      simpa using hs
  | cons t r ih =>
      have ht := hl t List.mem_cons_self
      have hr : ∀ u ∈ r, b ≤ u.low := fun u hu => hl u (List.mem_cons_of_mem _ hu)
      rw [insert] at h
      split at h
      · obtain ⟨r', he, rfl⟩ := Option.map_eq_some_iff.mp h
        exact join_low ht (ih hr he)
      · split at h
        · cases h
          exact join_low hs hl
        · cases h

/-- A span that is put in is covered beside what was. -/
theorem insert_some (hs : s.low < s.high) (hl : Separate l) (h : insert s l = some l') :
    Separate l' ∧ ∀ n, Covers l' n ↔ Covers l n ∨ s.Holds n := by
  induction l generalizing l' with
  | nil =>
      cases h
      refine ⟨⟨by simpa using hs, by simp⟩, fun n => ?_⟩
      rw [covers_cons, or_comm]
  | cons t r ih =>
      obtain ⟨t1, t2, t3⟩ := separate_cons.mp hl
      rw [insert] at h
      split at h
      · rename_i hle
        obtain ⟨r', he, rfl⟩ := Option.map_eq_some_iff.mp h
        obtain ⟨i1, i2⟩ := ih t3 he
        obtain ⟨j1, j2⟩ := join_spec t1 i1 (insert_low hle (fun u hu => Nat.le_of_lt (t2 u hu)) he)
        refine ⟨j1, fun n => ?_⟩
        rw [j2, i2, covers_cons, or_assoc]
      · split at h
        · rename_i hle
          cases h
          obtain ⟨j1, j2⟩ := join_spec hs hl
            (List.forall_mem_cons.mpr ⟨hle, fun u hu => by have := t2 u hu; omega⟩)
          refine ⟨j1, fun n => ?_⟩
          rw [j2, or_comm]
        · cases h

/-- A span is refused only when some place of it is covered already. -/
theorem insert_none (hs : s.low < s.high) (hl : Separate l) (h : insert s l = none) :
    ∃ n, s.Holds n ∧ Covers l n := by
  induction l with
  | nil => cases h
  | cons t r ih =>
      obtain ⟨t1, t2, t3⟩ := separate_cons.mp hl
      rw [insert] at h
      split at h
      · obtain ⟨n, h1, h2⟩ := ih t3 (Option.map_eq_none_iff.mp h)
        exact ⟨n, h1, covers_cons.mpr (.inr h2)⟩
      · split at h
        · cases h
        · rename_i h1 h2
          have hm : s.Holds (max s.low t.low) := ⟨by omega, by omega⟩
          exact ⟨max s.low t.low, hm, covers_cons.mpr (.inl ⟨by omega, by omega⟩)⟩

end Span

namespace SpanPool

variable {p q : SpanPool} {size count base : Nat} {e : Error}

/-- The places out are those below `size` of which `taken` holds. -/
structure Tracks (p : SpanPool) (size : Nat) (taken : Nat → Prop) : Prop where
  size_eq : p.size = size
  separate : Span.Separate p.free
  isFree_iff : ∀ n, p.IsFree n ↔ n < size ∧ ¬ taken n

namespace Tracks

variable {taken taken' : Nat → Prop}

theorem fresh {name : String} (h : 0 < size) : (fresh name size).Tracks size fun _ => False := by
  refine ⟨rfl, ⟨by simpa [SpanPool.fresh] using h, by simp [SpanPool.fresh]⟩, fun n => ?_⟩
  simp [IsFree, SpanPool.fresh, Span.Holds]

theorem congr (h : p.Tracks size taken) (ht : ∀ n, n < size → (taken' n ↔ taken n)) :
    p.Tracks size taken' := by
  refine ⟨h.size_eq, h.separate, fun n => ?_⟩
  rw [h.isFree_iff]
  exact and_congr_right fun hn => not_congr (ht n hn).symm

/-- Pools of one size and name with the same places out are the same. -/
theorem ext (h : p.Tracks size taken) (h' : q.Tracks size taken) (hn : p.name = q.name) :
    p = q := by
  have hf : p.free = q.free :=
    h.separate.ext h'.separate fun n => (h.isFree_iff n).trans (h'.isFree_iff n).symm
  have hs := h.size_eq.trans h'.size_eq.symm
  cases p
  cases q
  simp only [mk.injEq]
  exact ⟨hn, hs, hf⟩

theorem alloc_ok (h : p.Tracks size taken) (ha : p.alloc count = .ok base q) :
    q.name = p.name ∧ base + count ≤ size ∧
      (∀ n, base ≤ n → n < base + count → ¬ taken n) ∧
      q.Tracks size fun n => taken n ∨ base ≤ n ∧ n < base + count := by
  unfold alloc at ha
  split at ha
  · cases ha
  · rename_i hc
    split at ha
    · rename_i b l he
      cases ha
      obtain ⟨h1, h2, h3⟩ := Span.takeFirst_spec h.separate (by omega) he
      have hin : ∀ n, base ≤ n → n < base + count → n < size ∧ ¬ taken n :=
        fun n hn1 hn2 => (h.isFree_iff n).mp (h2 n hn1 hn2)
      refine ⟨rfl, ?_, fun n hn1 hn2 => (hin n hn1 hn2).2, h.size_eq, h1, fun n => ?_⟩
      · have := (hin (base + count - 1) (by omega) (by omega)).1
        omega
      · have := h3 n
        unfold IsFree
        rw [show (∃ s ∈ l, s.Holds n) ↔ _ from this, show Span.Covers p.free n ↔ _ from h.isFree_iff n]
        tauto
    · cases ha

theorem alloc_error (h : p.alloc count = .error e q) : q = p := by
  unfold alloc at h
  split at h
  · cases h
    rfl
  · split at h
    · cases h
    · cases h
      rfl

/-- Places that are out are taken back. -/
theorem release (h : p.Tracks size taken) (hc : 0 < count) (hb : base + count ≤ size)
    (ht : ∀ n, base ≤ n → n < base + count → taken n) :
    ∃ q, p.release base count = .ok () q ∧ q.name = p.name ∧
      q.Tracks size fun n => taken n ∧ ¬ (base ≤ n ∧ n < base + count) := by
  have hs : (⟨base, base + count⟩ : Span).low < (⟨base, base + count⟩ : Span).high := by
    simp only
    omega
  have hguard : ¬ (count = 0 ∨ p.size < base + count) := by
    rw [h.size_eq]
    omega
  unfold SpanPool.release
  rw [if_neg hguard]
  cases he : Span.insert ⟨base, base + count⟩ p.free with
  | none =>
      obtain ⟨n, ⟨h1, h2⟩, hf⟩ := Span.insert_none hs h.separate he
      exact absurd (ht n h1 h2) ((h.isFree_iff n).mp hf).2
  | some l =>
      obtain ⟨h1, h2⟩ := Span.insert_some hs h.separate he
      refine ⟨_, rfl, rfl, h.size_eq, h1, fun n => ?_⟩
      have := h2 n
      unfold IsFree
      rw [show (∃ s ∈ l, s.Holds n) ↔ _ from this, show Span.Covers p.free n ↔ _ from h.isFree_iff n]
      unfold Span.Holds
      simp only
      constructor
      · rintro (⟨hn, hnt⟩ | ⟨hn1, hn2⟩)
        · exact ⟨hn, fun hh => hnt hh.1⟩
        · exact ⟨by omega, fun hh => hh.2 ⟨hn1, hn2⟩⟩
      · rintro ⟨hn, hnt⟩
        by_cases hin : base ≤ n ∧ n < base + count
        · exact .inr hin
        · exact .inl ⟨hn, fun hh => hnt ⟨hh, hin⟩⟩

/-- Giving back what was just handed out restores the pool. -/
theorem release_alloc (h : p.Tracks size taken) (ha : p.alloc count = .ok base q) :
    Operation.after (SpanPool.release base count) q = p := by
  have hc : 0 < count := by
    unfold alloc at ha
    split at ha
    · cases ha
    · omega
  obtain ⟨hn, hb, hfree, hq⟩ := h.alloc_ok ha
  obtain ⟨q', he, hn', hq'⟩ := hq.release hc hb fun n h1 h2 => .inr ⟨h1, h2⟩
  rw [Operation.after, he]
  refine (hq'.congr fun n _ => ?_).ext h (hn'.trans hn)
  constructor
  · exact fun ht => ⟨.inl ht, fun ⟨h1, h2⟩ => hfree n h1 h2 ht⟩
  · rintro ⟨ht | ht, hnot⟩
    · exact ht
    · exact absurd ht hnot

end Tracks

end SpanPool

end ControlPlane
