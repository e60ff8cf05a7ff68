import ControlPlane.Operation

/-! # Where operations end

`Ends op s Q E` says where `op` ends when it starts in `s`: if it answers, `Q` holds of its answer and
the state that it reached, and if it fails, `E` holds of its failure and that state.  Both halves are
promises, since a failure keeps the state that was reached and the caller goes on from there.

There is one rule for each way in which operations are put together.  Where a failure is not told
apart from a success, as under `quietly`, both have to end in the same place.

`Answers P op` says less: only what may be answered, wherever it starts and ends. -/

namespace ControlPlane.Operation

variable {ε ε' σ τ α β : Type}

/-- `op` ends in `Q` if it answers and in `E` if it fails. -/
def Ends (op : EStateM ε σ α) (s : σ) (Q : α → σ → Prop) (E : ε → σ → Prop) : Prop :=
  match op s with
  | .ok a t => Q a t
  | .error e t => E e t

variable {op : EStateM ε σ α} {s : σ} {Q Q' : α → σ → Prop} {E E' : ε → σ → Prop}

theorem ends_ok {a : α} {t : σ} (h : op s = .ok a t) (hq : Q a t) : Ends op s Q E := by
  rw [Ends, h]
  exact hq

theorem ends_error {e : ε} {t : σ} (h : op s = .error e t) (he : E e t) : Ends op s Q E := by
  rw [Ends, h]
  exact he

/-- An operation that comes down to another ends where that one does. -/
theorem Ends.of_eq {op' : EStateM ε σ α} {s' : σ} (h : Ends op' s' Q E) (he : op s = op' s') :
    Ends op s Q E := by
  rwa [Ends, he]

theorem Ends.of_ok (h : Ends op s Q E) {a : α} {t : σ} (ho : op s = .ok a t) : Q a t := by
  rwa [Ends, ho] at h

theorem Ends.of_error (h : Ends op s Q E) {e : ε} {t : σ} (ho : op s = .error e t) : E e t := by
  rwa [Ends, ho] at h

theorem Ends.mono (h : Ends op s Q E) (hq : ∀ a t, Q a t → Q' a t) (he : ∀ e t, E e t → E' e t) :
    Ends op s Q' E' := by
  cases hop : op s with
  | ok a t => exact ends_ok hop (hq a t (h.of_ok hop))
  | error e t => exact ends_error hop (he e t (h.of_error hop))

theorem Ends.and (h : Ends op s Q E) (h' : Ends op s Q' E') :
    Ends op s (fun a t => Q a t ∧ Q' a t) fun e t => E e t ∧ E' e t := by
  cases hop : op s with
  | ok a t => exact ends_ok hop ⟨h.of_ok hop, h'.of_ok hop⟩
  | error e t => exact ends_error hop ⟨h.of_error hop, h'.of_error hop⟩

/-- Where an operation answers, it ends with that answer. -/
theorem Ends.answered (h : Ends op s Q E) :
    Ends op s (fun a t => Operation.answer op s = .ok a ∧ Q a t) E := by
  cases hop : op s with
  | ok a t => exact ends_ok hop ⟨by rw [Operation.answer, hop], h.of_ok hop⟩
  | error e t => exact ends_error hop (h.of_error hop)

theorem Ends.of_answer (h : Ends op s Q E) {a : α} (ha : Operation.answer op s = .ok a) :
    Q a (Operation.after op s) := by
  unfold Operation.answer at ha
  unfold Operation.after
  cases hop : op s with
  | ok b t =>
      rw [hop] at ha
      cases ha
      exact h.of_ok hop
  | error e t =>
      rw [hop] at ha
      cases ha

/-- An operation that never fails answers. -/
theorem Ends.answers (h : Ends op s Q fun _ _ => False) : ∃ a, Operation.answer op s = .ok a ∧
    Q a (Operation.after op s) := by
  cases hop : op s with
  | ok a t =>
      refine ⟨a, by rw [Operation.answer, hop], ?_⟩
      rw [Operation.after, hop]
      exact h.of_ok hop
  | error e t => exact (h.of_error hop).elim

theorem after_ok {a : α} {t : σ} (h : op s = .ok a t) : Operation.after op s = t := by
  rw [Operation.after, h]

/-- What is not a success is a failure. -/
theorem exists_error_of_isOk {x : Except ε α} (h : x.isOk = false) : ∃ e, x = .error e := by
  cases x with
  | ok a => cases h
  | error e => exact ⟨e, rfl⟩

theorem isOk_map (x : Except ε α) (f : α → β) : (x.map f).isOk = x.isOk := by
  cases x <;> rfl

theorem eq_ok_of_isOk {op : EStateM ε σ Unit} (h : (Operation.answer op s).isOk = true) :
    op s = .ok () (Operation.after op s) := by
  unfold Operation.answer at h
  unfold Operation.after
  cases hop : op s with
  | ok a t => rfl
  | error e t =>
      rw [hop] at h
      cases h

theorem ends_of_forall (hq : ∀ a t, Q a t) (he : ∀ e t, E e t) : Ends op s Q E := by
  cases hop : op s with
  | ok a t => exact ends_ok hop (hq a t)
  | error e t => exact ends_error hop (he e t)

/-- What holds wherever an operation ends holds after it. -/
theorem Ends.after {P : σ → Prop} (h : Ends op s (fun _ t => P t) fun _ t => P t) :
    P (after op s) := by
  unfold Operation.after
  cases hop : op s with
  | ok a t => exact h.of_ok hop
  | error e t => exact h.of_error hop

/-- Where an operation ends, with whether it has answered. -/
theorem Ends.isOk {P : Bool → σ → Prop} (h : Ends op s (fun _ t => P true t) fun _ t => P false t) :
    P (Operation.answer op s).isOk (Operation.after op s) := by
  unfold Operation.answer Operation.after
  cases hop : op s with
  | ok a t => exact h.of_ok hop
  | error e t => exact h.of_error hop

theorem Ends.of_after {P : σ → Prop} (h : P (Operation.after op s)) :
    Ends op s (fun _ t => P t) fun _ t => P t := by
  unfold Operation.after at h
  cases hop : op s with
  | ok a t => rw [hop] at h; exact ends_ok hop h
  | error e t => rw [hop] at h; exact ends_error hop h

/-! ### Single steps -/

theorem ends_pure {a : α} (h : Q a s) : Ends (pure a : EStateM ε σ α) s Q E := h

theorem ends_throw {e : ε} (h : E e s) : Ends (throw e : EStateM ε σ α) s Q E := h

theorem ends_get {Q : σ → σ → Prop} (h : Q s s) : Ends (get : EStateM ε σ σ) s Q E := h

theorem ends_set {t : σ} {Q : PUnit → σ → Prop} (h : Q ⟨⟩ t) :
    Ends (set t : EStateM ε σ PUnit) s Q E := h

theorem ends_modify {f : σ → σ} {Q : PUnit → σ → Prop} (h : Q ⟨⟩ (f s)) :
    Ends (modify f : EStateM ε σ PUnit) s Q E := h

theorem require_ok {p : Prop} [Decidable p] {e : ε} (h : p) :
    (require p e : EStateM ε σ Unit) s = .ok () s := if_pos h

theorem require_error {p : Prop} [Decidable p] {e : ε} (h : ¬ p) :
    (require p e : EStateM ε σ Unit) s = .error e s := if_neg h

/-! ### Putting operations together -/

theorem bind_ok {f : α → EStateM ε σ β} {a : α} {t : σ} (h : op s = .ok a t) :
    (op >>= f) s = f a t := by
  change EStateM.bind op f s = f a t
  rw [EStateM.bind, h]

theorem bind_error {f : α → EStateM ε σ β} {e : ε} {t : σ} (h : op s = .error e t) :
    (op >>= f) s = .error e t := by
  change EStateM.bind op f s = .error e t
  rw [EStateM.bind, h]

theorem attempt_ok {a : α} {t : σ} (h : op s = .ok a t) :
    (attempt op : EStateM ε' σ (Except ε α)) s = .ok (.ok a) t := by
  rw [attempt, h]

theorem lift_ok {op : DeviceOperation σ α} {a : α} {t : σ} (h : op s = .ok a t) :
    op.lift s = .ok a t := by
  rw [DeviceOperation.lift, mapError, h]

theorem focus_ok {get : σ → τ} {put : σ → τ → σ} {op : EStateM ε τ α} {a : α} {t : τ}
    (h : op (get s) = .ok a t) : focus get put op s = .ok a (put s t) := by
  rw [focus, h]

theorem focus_error {get : σ → τ} {put : σ → τ → σ} {op : EStateM ε τ α} {e : ε} {t : τ}
    (h : op (get s) = .error e t) : focus get put op s = .error e (put s t) := by
  rw [focus, h]

theorem answer_focus (get : σ → τ) (put : σ → τ → σ) (op : EStateM ε τ α) (s : σ) :
    Operation.answer (focus get put op) s = Operation.answer op (get s) := by
  unfold Operation.answer
  cases h : op (get s) with
  | ok a t => rw [focus_ok h]
  | error e t => rw [focus_error h]

theorem after_focus (get : σ → τ) (put : σ → τ → σ) (op : EStateM ε τ α) (s : σ) :
    Operation.after (focus get put op) s = put s (Operation.after op (get s)) := by
  unfold Operation.after
  cases h : op (get s) with
  | ok a t => rw [focus_ok h]
  | error e t => rw [focus_error h]

theorem Ends.bind {f : α → EStateM ε σ β} {R : β → σ → Prop}
    (h : Ends op s (fun a t => Ends (f a) t R E) E) : Ends (op >>= f) s R E := by
  unfold Ends at h ⊢
  change match (EStateM.bind op f) s with | .ok a t => R a t | .error e t => E e t
  unfold EStateM.bind
  cases hop : op s with
  | ok a t => rw [hop] at h; exact h
  | error e t => rw [hop] at h; exact h

/-- Where the answer does not matter. -/
theorem Ends.discard {P : σ → Prop} (h : Ends op s (fun _ t => P t) E) :
    Ends (op >>= fun _ => pure ()) s (fun _ t => P t) E :=
  Ends.bind (h.mono (fun _ _ hp => ends_pure hp) fun _ _ he => he)

theorem after_discard (op : EStateM ε σ α) (s : σ) :
    after (op >>= fun _ => pure ()) s = after op s := by
  unfold after
  cases hop : op s with
  | ok a t => rw [bind_ok hop]; rfl
  | error e t => rw [bind_error hop]

/-- Where an operation fails, it ends with that failure. -/
theorem Ends.of_failure (h : Ends op s Q E) {e : ε} (he : Operation.answer op s = .error e) :
    E e (Operation.after op s) := by
  unfold Operation.answer at he
  unfold Operation.after
  cases hop : op s with
  | ok a t =>
      rw [hop] at he
      cases he
  | error e' t =>
      rw [hop] at he
      cases he
      exact h.of_error hop

theorem Ends.focus {get : σ → τ} {put : σ → τ → σ} {op : EStateM ε τ α}
    (h : Ends op (get s) (fun a t => Q a (put s t)) fun e t => E e (put s t)) :
    Ends (focus get put op) s Q E := by
  unfold Ends at h ⊢
  unfold Operation.focus
  cases hop : op (get s) with
  | ok a t => rw [hop] at h; exact h
  | error e t => rw [hop] at h; exact h

theorem Ends.mapError {f : ε → ε'} {E : ε' → σ → Prop} (h : Ends op s Q fun e t => E (f e) t) :
    Ends (mapError f op) s Q E := by
  unfold Ends at h ⊢
  unfold Operation.mapError
  cases hop : op s with
  | ok a t => rw [hop] at h; exact h
  | error e t => rw [hop] at h; exact h

theorem Ends.quietly {op : EStateM ε σ Unit} {Q : Unit → σ → Prop} {E : ε' → σ → Prop}
    (h : Ends op s (fun _ t => Q () t) fun _ t => Q () t) :
    Ends (quietly op : EStateM ε' σ Unit) s Q E := by
  unfold Ends at h ⊢
  unfold Operation.quietly
  cases hop : op s with
  | ok a t => rw [hop] at h; exact h
  | error e t => rw [hop] at h; exact h

theorem Ends.orUndo {undo : EStateM ε σ Unit}
    (h : Ends op s Q fun e t => Ends undo t (fun _ u => E e u) fun _ u => E e u) :
    Ends (orUndo op undo) s Q E := by
  cases hop : op s with
  | ok a t => exact ends_ok (by simp only [Operation.orUndo, hop]) (h.of_ok hop)
  | error e t =>
      have hfail := h.of_error hop
      cases hundo : undo t with
      | ok _ u => exact ends_error (by simp only [Operation.orUndo, hop, hundo]) (hfail.of_ok hundo)
      | error _ u =>
          exact ends_error (by simp only [Operation.orUndo, hop, hundo]) (hfail.of_error hundo)

/-- What every round keeps holds where the rounds end. -/
theorem Ends.forAll {op : α → EStateM ε σ Unit} {I : σ → Prop} {E : ε → σ → Prop} {as : List α}
    (h : ∀ a ∈ as, ∀ s, I s → Ends (op a) s (fun _ t => I t) E) (hs : I s) :
    Ends (forAll op as) s (fun _ t => I t) E := by
  induction as generalizing s with
  | nil => exact hs
  | cons a as ih =>
      have ha := h a List.mem_cons_self s hs
      unfold Ends at ha ⊢
      unfold Operation.forAll
      cases hop : op a s with
      | ok _ t =>
          rw [hop] at ha
          exact ih (fun b hb => h b (List.mem_cons_of_mem _ hb)) ha
      | error e t => rw [hop] at ha; exact ha

/-! ### What is answered -/

/-- Wherever it starts, `op` answers only what `P` allows. -/
def Answers (P : α → Prop) (op : EStateM ε σ α) : Prop :=
  ∀ s, Ends op s (fun a _ => P a) fun _ _ => True

namespace Answers

variable {P : α → Prop} {op : EStateM ε σ α}

theorem pure {a : α} (h : P a) : Answers P (Pure.pure a : EStateM ε σ α) := fun _ => h

theorem throw (e : ε) : Answers P (MonadExcept.throw e : EStateM ε σ α) := fun _ => trivial

theorem ite {c : Prop} [Decidable c] {op' : EStateM ε σ α} (h : Answers P op) (h' : Answers P op') :
    Answers P (if c then op else op') := by
  by_cases hc : c
  · rwa [if_pos hc]
  · rwa [if_neg hc]

/-- What is done last gives the answer. -/
theorem bind {P : β → Prop} {f : α → EStateM ε σ β} (h : ∀ a, Answers P (f a)) :
    Answers P (op >>= f) :=
  fun _ => Ends.bind (ends_of_forall (fun a t => h a t) fun _ _ => trivial)

end Answers

end ControlPlane.Operation
