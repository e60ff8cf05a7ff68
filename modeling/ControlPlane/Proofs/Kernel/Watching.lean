import Mathlib.Logic.Function.Basic
import ControlPlane.Proofs.Kernel.Aside
import ControlPlane.Proofs.Kernel.Events
import ControlPlane.Proofs.Panel.Enables

/-! # Ports that are watched

A port is to be watched while some index names it, and no longer.  A link event changes the two one after the
other: its index names another port first, the port that it has named is forgotten unless another index still
names it, and the new one is watched, before it is enabled, which may fail.

* **Between the two.**  `relinked_attentive`: all is well but for the port that is not watched yet.
* **Step.**  `apply_attentive`: each event leaves exactly the ports watched that an index names, whether it is
  applied or fails.  `handle_naming`: what the indices name is told by the events alone.
* **Run.**  `watched_iff_named`. -/

namespace ControlPlane

namespace Event

/-- What the indices name after an event, by what they have named before. -/
def naming (board : Board) (named : IfIndex → Option PortId) : Event → IfIndex → Option PortId
  | .link i name _ => Function.update named i (board.named? name)
  | .linkRemoved i => Function.update named i none
  | .address _ _ | .route _ _ _ _ | .neighbor _ _ _ _ => named

/-- What the indices name after some events, the first one first.  Before them they name nothing. -/
def namedAfter (board : Board) (events : List Event) : IfIndex → Option PortId :=
  events.foldl (naming board) fun _ => none

end Event

namespace Follower

open Operation (Ends)

variable {δ : Type} {m : Follower δ} {i : IfIndex} {p q : PortId} {port? : Option PortId}

/-- Exactly the ports that an index names are watched. -/
def Aside.Attentive (a : Aside) : Prop :=
  ∀ p, a.ports.watched.contains p = true ↔ ∃ i, a.names.get? i = some p

/-- The same, but for a port that may not be watched yet. -/
def Aside.AttentiveBut (port? : Option PortId) (a : Aside) : Prop :=
  ∀ p, a.ports.watched.contains p = true ∨ port? = some p ↔ ∃ i, a.names.get? i = some p

/-! ### Names that change -/

theorem names_iff : m.names p = true ↔ ∃ i, m.ports.get? i = some p := by
  rw [names, List.contains_iff_mem, KeyMap.mem_values_iff]

theorem forget_of_names (h : m.names p = true) : m.forget p = m := if_pos h

theorem forget_ports (m : Follower δ) (p : PortId) : (m.forget p).ports = m.ports :=
  congrArg (·.ports) (elsewhere_forget m p)

/-- A port is still watched unless it is forgotten and nothing names it. -/
theorem forget_watched_iff : (m.forget p).switch.ports.watched.contains q = true ↔
    m.switch.ports.watched.contains q = true ∧ (p = q → m.names p = true) := by
  by_cases hp : m.names p = true
  · rw [forget_of_names hp]
    exact ⟨fun h => ⟨h, fun _ => hp⟩, fun h => h.1⟩
  · have hforget : (m.forget p).switch.ports.watched = m.switch.ports.watched.erase p := by
      rw [forget, if_neg hp]
      rfl
    rw [hforget, KeyMap.contains_iff, KeyMap.contains_iff, KeyMap.get?_erase]
    by_cases hpq : p = q
    · subst hpq
      simp [hp]
    · simp [hpq]

theorem naming_switch (m : Follower δ) (i : IfIndex) (port? : Option PortId) :
    (m.naming i port?).switch = m.switch := by
  cases port? <;> rfl

/-- A port is named by the index that is given a name, or by another one. -/
theorem named_naming_iff : (∃ k, (m.naming i port?).ports.get? k = some p) ↔
    port? = some p ∨ ∃ k, i ≠ k ∧ m.ports.get? k = some p := by
  simp only [(m.renamed_naming i port?).ports]
  constructor
  · rintro ⟨k, hk⟩
    split at hk
    · exact .inl hk
    · rename_i hne
      exact .inr ⟨k, hne, hk⟩
  · rintro (hport | ⟨k, hne, hk⟩)
    · exact ⟨i, by rw [if_pos rfl, hport]⟩
    · exact ⟨k, by rw [if_neg hne, hk]⟩

/-- An index that has named no port names one now. -/
theorem naming_attentive (h : m.aside.Attentive) (hnone : m.ports.get? i = none) (port? : Option PortId) :
    (m.naming i port?).aside.AttentiveBut port? := by
  intro p
  have hbefore : m.switch.ports.watched.contains p = true ↔ ∃ k, m.ports.get? k = some p := h p
  change (m.naming i port?).switch.ports.watched.contains p = true ∨ _ ↔
    ∃ k, (m.naming i port?).ports.get? k = _
  rw [naming_switch, hbefore, named_naming_iff, or_comm]
  refine or_congr_right ⟨?_, fun ⟨k, _, hk⟩ => ⟨k, hk⟩⟩
  rintro ⟨k, hk⟩
  refine ⟨k, ?_, hk⟩
  rintro rfl
  rw [hnone] at hk
  cases hk

/-- An index names something else than before, and what it has named is forgotten.  Another index that names
that port keeps it watched. -/
theorem forget_attentive (h : m.aside.Attentive) {old : PortId} (hold : m.ports.get? i = some old)
    (port? : Option PortId) : ((m.naming i port?).forget old).aside.AttentiveBut port? := by
  intro p
  have hbefore : m.switch.ports.watched.contains p = true ↔ ∃ k, m.ports.get? k = some p := h p
  change ((m.naming i port?).forget old).switch.ports.watched.contains p = true ∨ _ ↔
    ∃ k, ((m.naming i port?).forget old).ports.get? k = _
  rw [forget_watched_iff, forget_ports, naming_switch, hbefore, names_iff, named_naming_iff, named_naming_iff]
  constructor
  · rintro (⟨⟨k, hk⟩, hother⟩ | hport)
    · by_cases hp : old = p
      · exact hp ▸ hother hp
      · have hne : i ≠ k := by
          rintro rfl
          exact hp (Option.some.inj (hold.symm.trans hk))
        exact .inr ⟨k, hne, hk⟩
    · exact .inl hport
  · rintro (hport | ⟨k, hne, hk⟩)
    · exact .inr hport
    · exact .inl ⟨⟨k, hk⟩, fun hp => .inr ⟨k, hne, hp ▸ hk⟩⟩

/-- Before the port that an index now names is watched. -/
theorem relinked_attentive (h : m.aside.Attentive) (i : IfIndex) (name : String) :
    (m.relinked i name).aside.AttentiveBut (m.named? name) := by
  unfold relinked
  split
  · rename_i hnone
    exact naming_attentive h hnone _
  · rename_i old hold
    have hforget := forget_attentive h hold (m.named? name)
    split
    · -- the index that has named the port names it still, so that forgetting it would do nothing
      rename_i hsame
      have hnames : (m.naming i (m.named? name)).names old = true :=
        names_iff.mpr ⟨i, ((m.renamed_naming i _).ports i).trans ((if_pos rfl).trans hsame)⟩
      rw [forget_of_names hnames] at hforget
      exact hforget
    · exact hforget

theorem Aside.AttentiveBut.of_none {a : Aside} (h : a.AttentiveBut none) : a.Attentive :=
  fun p => (or_iff_left (Option.some_ne_none p).symm).symm.trans (h p)

/-- The port that is still missing is watched. -/
theorem Aside.AttentiveBut.watch {a : Aside} (h : a.AttentiveBut (some p)) :
    Aside.Attentive { a with ports := a.ports.watch p true } := by
  intro q
  change (a.ports.watched.insert p ()).contains q = true ↔ ∃ i, a.names.get? i = some q
  rw [← h q, KeyMap.contains_iff, KeyMap.contains_iff, KeyMap.get?_insert]
  by_cases hpq : p = q
  · simp [hpq]
  · simp [hpq]

/-! ### Link events -/

theorem linkRemoved_attentive (i : IfIndex) :
    Spares Aside.Attentive (linkRemoved i : Operation (Follower δ) EventOutcome) := by
  refine .get_bind fun m hm => ?_
  split
  · exact .pure _
  · rename_i port hport
    exact .bind (.set (forget_attentive hm hport none).of_none) fun _ => .pure _

section events

variable [Bus δ]

/-- Whether it succeeds or not, enabling a port changes neither names nor what is watched. -/
theorem setPortEnabled_attentive (port : PortId) (up : Bool) :
    Spares Aside.Attentive (onSwitch (Switch.setPortEnabled port up) : Operation (Follower δ) Unit) := by
  intro m hm
  refine Ends.focus ?_
  change Ends (Switch.onPorts (Ports.setEnabled m.switch.board port up)) m.switch _ _
  refine Ends.focus ?_
  by_cases hp : m.switch.board.Has port
  · exact Ports.ends_setEnabled hp (Operation.ends_of_forall (fun _ _ => hm) fun _ _ => hm)
  · exact Operation.ends_error (Ports.setEnabled_beyond hp up _) hm

theorem link_attentive (i : IfIndex) (name : String) (up : Bool) :
    Spares Aside.Attentive (link i name up : Operation (Follower δ) EventOutcome) := by
  intro m hm
  have heq := m.link_eq i name up
  have hbut := relinked_attentive hm i name
  cases hnamed : m.named? name with
  | none =>
      rw [hnamed] at heq hbut
      exact Operation.ends_ok heq hbut.of_none
  | some port =>
      rw [hnamed] at heq hbut
      refine Ends.of_eq (Ends.bind (Operation.ends_modify ?_)) heq
      exact (Spares.bind (setPortEnabled_attentive port up) fun _ => .pure _) _ hbut.watch

/-! ### Every event -/

theorem apply_attentive (event : Event) :
    Spares Aside.Attentive (apply event : Operation (Follower δ) EventOutcome) := by
  cases event with
  | link i name up => exact link_attentive i name up
  | linkRemoved i => exact linkRemoved_attentive i
  | address _ _ | route _ _ _ _ | neighbor _ _ _ _ =>
      exact apply_spares_rest (fun _ _ h => h) nofun nofun

theorem handle_attentive (h : m.aside.Attentive) (event : Event) : (handle event m).2.aside.Attentive :=
  handle_ends (P := fun _ m' => m'.aside.Attentive) (apply_attentive event m h)

/-- What the indices name is what the events say, also where they fail. -/
theorem handle_naming (m : Follower δ) (event : Event) :
    (handle event m).2.switch.board = m.switch.board ∧
      (handle event m).2.ports.get? = event.naming m.switch.board m.ports.get? := by
  have hrenamed {i : IfIndex} {port? : Option PortId} {m' : Follower δ} (h : m.Renamed i port? m') :
      m'.switch.board = m.switch.board ∧ m'.ports.get? = Function.update m.ports.get? i port? := by
    refine ⟨congrArg (·.switch.board) h.rest, funext fun k => ?_⟩
    rw [h.ports, Function.update_apply]
    simp only [eq_comm]
  refine handle_ends (P := fun _ m' => m'.switch.board = m.switch.board ∧
    m'.ports.get? = event.naming m.switch.board m.ports.get?) ?_
  cases event with
  | link i name up => exact (link_ends i name up).mono (fun _ _ => hrenamed) fun _ _ => hrenamed
  | linkRemoved i => exact (linkRemoved_ends i).mono (fun _ _ => hrenamed) fun _ _ he => he.elim
  | address _ _ | route _ _ _ _ | neighbor _ _ _ _ =>
      refine apply_spares_rest (R := fun a => a.board = m.switch.board ∧ a.names.get? = m.ports.get?)
        (fun _ _ h => h) ?_ ?_ m ⟨rfl, rfl⟩
      · exact nofun
      · exact nofun

theorem run_naming (m : Follower δ) (events : List Event) :
    (m.run events).ports.get? = events.foldl (Event.naming m.switch.board) m.ports.get? := by
  induction events generalizing m with
  | nil => rfl
  | cons event events ih =>
      obtain ⟨hboard, hports⟩ := handle_naming m event
      refine (ih (handle event m).2).trans ?_
      rw [hboard, hports]
      rfl

/-- After every run on a fresh switch, whatever the device answers to each write, each index names what its
last link event says, and a port is watched exactly if some index names it. -/
theorem watched_iff_named (board : Board) (bus : δ) (events : List Event) :
    let m := (fresh (.fresh board bus)).run events
    (∀ i, m.ports.get? i = Event.namedAfter board events i) ∧
      ∀ p, m.switch.ports.watched.contains p = true ↔ ∃ i, m.ports.get? i = some p := by
  intro m
  have hstart : (fresh (.fresh board bus)).aside.Attentive := by
    intro p
    simp [aside, fresh, Switch.fresh, Ports.fresh, KeyMap.contains_iff]
  constructor
  · intro i
    have hempty : (fresh (.fresh board bus)).ports.get? = fun _ => none := funext KeyMap.get?_empty
    exact congrFun ((run_naming _ events).trans (congrArg (events.foldl _) hempty)) i
  · exact run_keeps (P := fun m => m.aside.Attentive) (fun event _ _ h => handle_attentive h event) hstart

end events

end Follower

end ControlPlane
