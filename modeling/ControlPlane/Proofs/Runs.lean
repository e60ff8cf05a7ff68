import Mathlib.Data.List.Basic

/-! # Runs and histories

A list that is gone through in order, up to an element that will not do, stops at its `FirstOutside`: there is
at most one, and there is one unless all elements will do.

A run takes its steps one after the other, so the state that it leads to is a fold over them.  What every
step keeps holds after each of its beginnings (`foldl_take_holds`).

A history has the calls that were made, each with whether it succeeded.  What is kept in a table `Stands` in
the history: a call that gives it has succeeded, and since then none that changes it.  One more call makes
something stand or ends it (`stands_concat_iff`), which is the step that a table has to match. -/

namespace ControlPlane

/-! ### The first that will not do -/

section firsts

variable {α : Type} {Good : α → Prop} {as : List α} {a b : α} {j k : Nat}

/-- Element `k` of a list is its first that is outside of what is good. -/
structure FirstOutside (Good : α → Prop) (as : List α) (k : Nat) (a : α) : Prop where
  found : as[k]? = some a
  outside : ¬ Good a
  before : ∀ j < k, ∀ b, as[j]? = some b → Good b

theorem firstOutside_cons_of_not (h : ¬ Good a) : FirstOutside Good (a :: as) k b ↔ k = 0 ∧ b = a := by
  constructor
  · rintro ⟨hfound, -, hbefore⟩
    cases k with
    | zero => exact ⟨rfl, (Option.some.inj hfound).symm⟩
    | succ k => exact absurd (hbefore 0 (Nat.zero_lt_succ k) a rfl) h
  · rintro ⟨rfl, rfl⟩
    exact ⟨rfl, h, fun j hj => absurd hj (Nat.not_lt_zero j)⟩

theorem firstOutside_cons_of_good (h : Good a) :
    FirstOutside Good (a :: as) k b ↔ ∃ j, k = j + 1 ∧ FirstOutside Good as j b := by
  constructor
  · rintro ⟨hfound, hout, hbefore⟩
    cases k with
    | zero => exact absurd (Option.some.inj hfound ▸ h) hout
    | succ k => exact ⟨k, rfl, hfound, hout, fun j hj => hbefore (j + 1) (Nat.succ_lt_succ hj)⟩
  · rintro ⟨j, rfl, hfound, hout, hbefore⟩
    refine ⟨hfound, hout, fun i hi b hb => ?_⟩
    cases i with
    | zero => exact Option.some.inj hb ▸ h
    | succ i => exact hbefore i (Nat.lt_of_succ_lt_succ hi) b hb

theorem FirstOutside.unique (h : FirstOutside Good as j a) (h' : FirstOutside Good as k b) : j = k ∧ a = b := by
  rcases Nat.lt_trichotomy j k with hlt | rfl | hlt
  · exact absurd (h'.before j hlt a h.found) h.outside
  · exact ⟨rfl, Option.some.inj (h.found.symm.trans h'.found)⟩
  · exact absurd (h.before k hlt b h'.found) h'.outside

theorem FirstOutside.imp {Good' : α → Prop} (h : FirstOutside Good as k a) (hgood : ∀ b, Good b → Good' b)
    (hout : ¬ Good' a) : FirstOutside Good' as k a :=
  ⟨h.found, hout, fun j hj b hb => hgood b (h.before j hj b hb)⟩

/-- Not all elements are good where one is outside. -/
theorem FirstOutside.not_forall (h : FirstOutside Good as k a) : ¬ ∀ b ∈ as, Good b := fun hall =>
  h.outside (hall a (List.mem_of_getElem? h.found))

theorem forall_good_or_firstOutside (Good : α → Prop) (as : List α) :
    (∀ a ∈ as, Good a) ∨ ∃ k a, FirstOutside Good as k a := by
  induction as with
  | nil => exact .inl fun _ h => nomatch h
  | cons a as ih =>
      by_cases h : Good a
      · rcases ih with hall | ⟨k, b, hfirst⟩
        · exact .inl (List.forall_mem_cons.mpr ⟨h, hall⟩)
        · exact .inr ⟨k + 1, b, (firstOutside_cons_of_good h).mpr ⟨k, rfl, hfirst⟩⟩
      · exact .inr ⟨0, a, (firstOutside_cons_of_not h).mpr ⟨rfl, rfl⟩⟩

end firsts

/-! ### Steps -/

section steps

variable {σ α : Type} {f : σ → α → σ} {start : σ} {steps : List α}

variable (f start) in
/-- The state after one more step. -/
theorem foldl_take_succ {k : Nat} {step : α} (hk : steps[k]? = some step) :
    (steps.take (k + 1)).foldl f start = f ((steps.take k).foldl f start) step := by
  rw [List.take_add_one, hk, List.foldl_append]
  rfl

/-- What every step keeps holds throughout a run. -/
theorem foldl_take_holds {P : σ → Prop} (hstart : P start)
    (hstep : ∀ k step, steps[k]? = some step → P ((steps.take k).foldl f start) →
      P (f ((steps.take k).foldl f start) step)) :
    ∀ k ≤ steps.length, P ((steps.take k).foldl f start) := by
  intro k hk
  induction k with
  | zero => exact hstart
  | succ k ih =>
      have hnext : steps[k]? = some steps[k] := List.getElem?_eq_getElem hk
      rw [foldl_take_succ f start hnext]
      exact hstep k _ hnext (ih (Nat.le_of_succ_le hk))

end steps

/-! ### What stands -/

section histories

variable {γ : Type} {gives changes gives' changes' : γ → Prop} {history : List (γ × Bool)} {c : γ} {ok : Bool}

/-- A call that gives something has succeeded, and none that changes it has succeeded since. -/
def Stands (gives changes : γ → Prop) (history : List (γ × Bool)) : Prop :=
  ∃ before c since, history = before ++ (c, true) :: since ∧ gives c ∧
    ∀ later ∈ since, later.2 = true → ¬ changes later.1

theorem not_stands_nil : ¬ Stands gives changes [] := by
  rintro ⟨before, c, since, heq, -⟩
  simp at heq

/-- What stands was given by a call of the history. -/
theorem Stands.exists_mem (h : Stands gives changes history) : ∃ c, (c, true) ∈ history ∧ gives c := by
  obtain ⟨before, c, since, rfl, hgives, -⟩ := h
  exact ⟨c, List.mem_append_right before List.mem_cons_self, hgives⟩

/-- What more calls give and fewer change stands too. -/
theorem Stands.mono (h : Stands gives changes history) (hgives : ∀ c, gives c → gives' c)
    (hchanges : ∀ c, changes' c → changes c) : Stands gives' changes' history := by
  obtain ⟨before, c, since, heq, hc, hsince⟩ := h
  exact ⟨before, c, since, heq, hgives c hc, fun later hmem hok hl =>
    hsince later hmem hok (hchanges later.1 hl)⟩

/-- A call that succeeds makes what it gives stand or ends what it changes; others change nothing. -/
theorem stands_concat_iff : Stands gives changes (history ++ [(c, ok)]) ↔ gives c ∧ ok = true ∨
    Stands gives changes history ∧ ¬ (ok = true ∧ changes c) := by
  constructor
  · rintro ⟨before, given, since, heq, hgives, hsince⟩
    rcases List.eq_nil_or_concat' since with rfl | ⟨since, last, rfl⟩
    · obtain ⟨-, hlast⟩ := List.append_inj' heq rfl
      cases hlast
      exact .inl ⟨hgives, rfl⟩
    · rw [← List.cons_append, ← List.append_assoc] at heq
      obtain ⟨hinit, hlast⟩ := List.append_inj' heq rfl
      cases hlast
      refine .inr ⟨⟨before, given, since, hinit, hgives, fun later hmem => ?_⟩, fun hc => ?_⟩
      · exact hsince later (List.mem_append_left _ hmem)
      · exact hsince (c, ok) (List.mem_append_right _ List.mem_cons_self) hc.1 hc.2
  · rintro (⟨hgives, rfl⟩ | ⟨⟨before, given, since, rfl, hgives, hsince⟩, hnot⟩)
    · exact ⟨history, c, [], rfl, hgives, nofun⟩
    · refine ⟨before, given, since ++ [(c, ok)],
        by rw [List.append_assoc, List.cons_append], hgives, ?_⟩
      intro later hmem hok hchanges
      rcases List.mem_append.mp hmem with hmem | hmem
      · exact hsince later hmem hok hchanges
      · obtain rfl := List.mem_singleton.mp hmem
        exact hnot ⟨hok, hchanges⟩

end histories

end ControlPlane
