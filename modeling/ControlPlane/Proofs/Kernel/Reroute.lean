import ControlPlane.Kernel.Follower
import ControlPlane.Proofs.Routing.View

/-! # What a follower does to the switch

A follower changes what is routed and keeps books of it.  `Rerouted m v m'` says that `m'` differs from
`m` in what is routed alone, and that `v` is routed now.  A change of the books is written as a change
of `m`: `Rerouted { m with hosts := .. } v m'`.

Here are the operations that the others are made of.  `provide` makes an egress object that was not
there and a route to it, or leaves everything as it was (`provide_ends`); `release` always destroys an
egress object that no route leads to (`release_ends`). -/

namespace ControlPlane.Follower

open Operation (Ends)
open Routing (View)

variable {δ : Type} {refused : δ → Prop} {m m' m'' : Follower δ} {v v' : View}

/-- What is routed. -/
def view (m : Follower δ) : View := m.switch.routing.view

def reroute (m : Follower δ) (r : Routing) (bus : δ) : Follower δ :=
  { m with switch := { m.switch with routing := r, bus := bus } }

/-- `m'` is `m` with `v` routed instead, and its device has not forgotten refusals. -/
structure Rerouted (refused : δ → Prop) (m : Follower δ) (v : View) (m' : Follower δ) : Prop where
  rest : m' = m.reroute m'.switch.routing m'.switch.bus
  plain : m'.switch.routing.Plain
  view_eq : m'.view = v
  persists : refused m.switch.bus → refused m'.switch.bus

namespace Rerouted

theorem refl (h : m.switch.routing.Plain) : Rerouted refused m m.view m := ⟨rfl, h, rfl, id⟩

theorem trans (h : Rerouted refused m v m') (h' : Rerouted refused m' v' m'') :
    Rerouted refused m v' m'' where
  rest := by
    rw [h'.rest, h.rest]
    rfl
  plain := h'.plain
  view_eq := h'.view_eq
  persists hr := h'.persists (h.persists hr)

theorem of_shows {t : Routing × δ} (h : Routing.Shows refused m.switch.bus v t) :
    Rerouted refused m v (m.reroute t.1 t.2) :=
  ⟨rfl, h.plain, h.view_eq, h.persists⟩

/-- What is written in the books does not depend on what is routed. -/
theorem book (h : Rerouted refused m v m') (f : Follower δ → Follower δ)
    (hf : ∀ m r bus, f (m.reroute r bus) = (f m).reroute r bus)
    (hs : ∀ m, (f m).switch = m.switch) : Rerouted refused (f m) v (f m') where
  rest := by
    rw [hs m', ← hf]
    exact congrArg f h.rest
  plain := by
    rw [hs m']
    exact h.plain
  view_eq := by
    rw [view, hs m']
    exact h.view_eq
  persists := by
    rw [hs m', hs m]
    exact h.persists

theorem ports (h : Rerouted refused m v m') : m'.ports = m.ports := congrArg (·.ports) h.rest

theorem interfaces (h : Rerouted refused m v m') : m'.interfaces = m.interfaces :=
  congrArg (·.interfaces) h.rest

theorem neighbors (h : Rerouted refused m v m') : m'.neighbors = m.neighbors :=
  congrArg (·.neighbors) h.rest

theorem pending (h : Rerouted refused m v m') : m'.pending = m.pending :=
  congrArg (·.pending) h.rest

theorem installed (h : Rerouted refused m v m') : m'.installed = m.installed :=
  congrArg (·.installed) h.rest

theorem hosts (h : Rerouted refused m v m') : m'.hosts = m.hosts := congrArg (·.hosts) h.rest

theorem board (h : Rerouted refused m v m') : m'.switch.board = m.switch.board :=
  congrArg (·.switch.board) h.rest

end Rerouted

/-! ### What an egress object needs -/

/-- Why no egress object can be provided: the device refuses, the port is not one of the board's, its
interface is gone, or there is no room for the egress object or for the route. -/
def Obstructed (refused : δ → Prop) (m : Follower δ) (rp : RoutedPort) (key : Subnet)
    (m' : Follower δ) : Prop :=
  refused m'.switch.bus ∨ ¬ m.switch.board.Has rp.port ∨ m.view.interface? rp.interface = none ∨
    m.view.EgressesFull ∨ m.view.route? key = none ∧ m.view.SlotsFull

/-- Egress objects can be made for a port's interface. -/
structure Ready (m : Follower δ) (rp : RoutedPort) : Prop where
  has_port : m.switch.board.Has rp.port
  has_interface : m.view.interface? rp.interface ≠ none

/-- The device has refused something, or there is no room for another egress object or route. -/
def Exhausted (refused : δ → Prop) (m : Follower δ) : Prop :=
  refused m.switch.bus ∨ m.view.EgressesFull ∨ m.view.SlotsFull

theorem Ready.congr {rp : RoutedPort} (h : m.Ready rp) (hb : m'.switch.board = m.switch.board)
    (hi : m'.view.interface? = m.view.interface?) : m'.Ready rp where
  has_port := by
    rw [hb]
    exact h.has_port
  has_interface := by
    rw [hi]
    exact h.has_interface

/-- Where a port is ready, only refusals and lack of room stand in the way. -/
theorem Ready.exhausted {rp : RoutedPort} {key : Subnet} (h : m.Ready rp) (hv : m'.view = m.view)
    (ho : m.Obstructed refused rp key m') : m'.Exhausted refused := by
  rw [Exhausted, hv]
  rcases ho with hr | hp | hi | hfull | ⟨-, hslots⟩
  · exact .inl hr
  · exact absurd h.has_port hp
  · exact absurd hi h.has_interface
  · exact .inr (.inl hfull)
  · exact .inr (.inr hslots)

/-! ### Operations of the switch -/

theorem onRouting_ends {α : Type} {op : Operation (Routing × δ) α} {Q : α → Follower δ → Prop}
    {E : Error → Follower δ → Prop}
    (h : Ends op (m.switch.routing, m.switch.bus) (fun a t => Q a (m.reroute t.1 t.2))
      fun e t => E e (m.reroute t.1 t.2)) :
    Ends (onSwitch (Switch.onRouting op)) m Q E :=
  Ends.focus (Ends.focus h)

theorem tryTo_ends {op : Operation (Follower δ) Unit} {Q : Follower δ → Prop}
    {E : Error → Follower δ → Prop} (h : Ends op m (fun _ m' => Q m') fun _ m' => Q m') :
    Ends (tryTo op) m (fun _ m' => Q m') E :=
  Ends.quietly h

/-- Nobody hears of the failure of something that is only tried. -/
theorem tryTo_answers (op : Operation (Follower δ) Unit) (m : Follower δ) :
    ∃ m', tryTo op m = .ok () m' := by
  unfold tryTo Operation.quietly
  cases op m <;> exact ⟨_, rfl⟩

theorem forAll_tryTo_answers {α : Type} (op : α → Operation (Follower δ) Unit) (as : List α)
    (m : Follower δ) : ∃ m', Operation.forAll (fun a => tryTo (op a)) as m = .ok () m' := by
  induction as generalizing m with
  | nil => exact ⟨m, rfl⟩
  | cons a as ih =>
      obtain ⟨m₁, h1⟩ := tryTo_answers (op a) m
      obtain ⟨m₂, h2⟩ := ih m₁
      exact ⟨m₂, by simp only [Operation.forAll, h1, h2]⟩

theorem ifThere_ends {op : Operation (Follower δ) Unit} {Q : Bool → Follower δ → Prop}
    {E : Error → Follower δ → Prop}
    (h : Ends op m (fun _ m' => Q true m') fun e m' => (∃ what, e = .missing what) ∧ Q false m') :
    Ends (ifThere op) m Q E := by
  cases hop : op m with
  | ok u m' => exact Operation.ends_ok (by simp only [ifThere, hop]) (h.of_ok hop)
  | error e m' =>
      obtain ⟨⟨what, rfl⟩, hq⟩ := h.of_error hop
      exact Operation.ends_ok (by simp only [ifThere, hop]) hq

/-- What holds of an operation however it ends holds also if it was for something missing. -/
theorem ifThere_any {op : Operation (Follower δ) Unit} {P : Follower δ → Prop}
    (h : Ends op m (fun _ m' => P m') fun _ m' => P m') :
    Ends (ifThere op) m (fun _ m' => P m') fun _ m' => P m' := by
  unfold Ends ifThere
  cases hop : op m with
  | ok u m' => exact h.of_ok hop
  | error e m' =>
      have hp := h.of_error hop
      cases e <;> exact hp

variable [Bus δ]

/-- An egress object that no route leads to is gone once it has been released. -/
theorem release_ends (ht : Bus.Tells refused) (h : m.switch.routing.Plain) {id : EgressId}
    (hid : ¬ m.view.Routed id) :
    Ends (release id) m (fun _ m' => Rerouted refused m (m.view.setEgress id none) m')
      fun _ _ => False :=
  tryTo_ends (onRouting_ends ((Routing.destroyEgress_shows ht h hid).mono
    (fun _ _ hs => .of_shows hs) fun _ _ hs => .of_shows hs))

theorem release?_ends (ht : Bus.Tells refused) (h : m.switch.routing.Plain) {o : Option EgressId}
    (ho : ∀ id, o = some id → ¬ m.view.Routed id) :
    Ends (release? o) m (fun _ m' => Rerouted refused m (m.view.drop? o) m') fun _ _ => False := by
  cases o with
  | none => exact Operation.ends_pure (.refl h)
  | some id => exact release_ends ht h (ho id rfl)

/-- Removing a route tells whether there was one. -/
theorem removeRoute_ends (ht : Bus.Tells refused) (h : m.switch.routing.Plain) (subnet : Subnet) :
    Ends (ifThere (onSwitch (Switch.removeRoute subnet))) m
      (fun there m' => (there = true ↔ m.view.route? subnet.canon ≠ none) ∧
        Rerouted refused m (m.view.setRoute subnet.canon none) m')
      fun _ _ => False := by
  refine ifThere_ends (onRouting_ends ((Routing.removeRoute_shows ht h subnet).mono ?_ ?_))
  · intro _ t hs
    exact ⟨⟨fun _ => hs.1, fun _ => rfl⟩, .of_shows hs.2⟩
  · rintro e t ⟨rfl, hnone, rfl⟩
    have hsame : Rerouted refused m (m.view.setRoute subnet.canon none) m :=
      ⟨rfl, h, (View.setRoute_eq_self hnone).symm, id⟩
    exact ⟨⟨_, rfl⟩, ⟨fun hf => absurd hf Bool.false_ne_true, fun hn => absurd hnone hn⟩, hsame⟩

/-! ### Providing an egress object -/

theorem provide_ends (ht : Bus.Tells refused) (h : m.switch.routing.Plain) (rp : RoutedPort)
    (mac : MacAddr) (subnet : Subnet) :
    Ends (provide rp mac fun egress => Switch.addRoute subnet (.egress egress)) m
      (fun id m' => ∃ slot, m.view.Fresh subnet.canon id slot ∧
        Rerouted refused m
          (m.view.provide subnet.canon ⟨mac, rp.port, rp.interface⟩ id slot) m')
      (fun _ m' => Rerouted refused m m.view m' ∧ m.Obstructed refused rp subnet.canon m') := by
  refine Ends.bind (onRouting_ends ((Routing.createEgress_shows ht h m.switch.board
    ⟨mac, rp.port, rp.interface⟩).mono ?_ ?_))
  · rintro id t ⟨⟨hn, hfree⟩, hs⟩
    have h1 : Rerouted refused m (m.view.setEgress id (some ⟨mac, rp.port, rp.interface⟩))
        (m.reroute t.1 t.2) := .of_shows hs
    generalize m.reroute t.1 t.2 = m₁ at h1 ⊢
    refine Ends.bind (Ends.orUndo (onRouting_ends
      ((Routing.addRoute_shows ht h1.plain subnet id).mono ?_ ?_)))
    · rintro slot t ⟨hslot, hs⟩
      have h2 := h1.trans (.of_shows hs)
      rw [show m₁.switch.routing.view = _ from h1.view_eq] at hslot h2
      exact Operation.ends_pure ⟨slot, ⟨hn, hfree, hslot⟩, h2⟩
    · rintro e t ⟨hs, hwhy⟩
      have h2 := h1.trans (.of_shows hs)
      have hv : m₁.switch.routing.view = _ := h1.view_eq
      rw [hv] at h2 hwhy
      have hrouted : ¬ (m₁.reroute t.1 t.2).view.Routed id := by
        rw [h2.view_eq]
        exact fun hr => h.egress_of_routed hr hfree
      refine (release_ends ht h2.plain hrouted).mono ?_ fun _ _ he => he.elim
      intro _ m₂ h3
      rw [h2.view_eq, View.setEgress_none (v := m.view) _ hfree] at h3
      refine ⟨h2.trans h3, ?_⟩
      rcases hwhy with hr | hnone | ⟨hkey, hfull⟩
      · exact .inl (h3.persists hr)
      · rw [View.setEgress_self] at hnone
        cases hnone
      · exact .inr (.inr (.inr (.inr ⟨hkey, hfull⟩)))
  · rintro e t ⟨hs, hwhy⟩
    refine ⟨.of_shows hs, ?_⟩
    rcases hwhy with hr | hp | hi | hfull
    · exact .inl hr
    · exact .inr (.inl hp)
    · exact .inr (.inr (.inl hi))
    · exact .inr (.inr (.inr (.inl hfull)))

end ControlPlane.Follower
