import ControlPlane.Proofs.Routing.Operations
import ControlPlane.Switch

/-! # Runs of requests to routed forwarding

A switch is asked, in any order and with any arguments, to create and destroy interfaces, egress
objects and groups and to add and remove routes; the chip answers each write as it likes.

* **Step.**  `RoutingRequest.serve_intact`: a request keeps the record intact, whether it succeeds or
  fails.
* **Run.**  `serveAll_intact`: so the record is intact after every run from a switch that nothing has
  been told.
* **Destruction.**  What exists can be destroyed exactly when nothing uses it, and is busy otherwise
  (`destroyInterface_refuses`, `destroyEgress_refuses`, `destroyGroup_refuses`). -/

namespace ControlPlane

open Operation (Ends)

/-- Something that a switch can be asked about what it routes. -/
inductive RoutingRequest where
  | createInterface (mac : MacAddr) (vlan : Nat)
  | destroyInterface (id : InterfaceId)
  | createEgress (egress : Egress)
  | destroyEgress (id : EgressId)
  | addRoute (subnet : Subnet) (target : RouteTarget)
  | addHost (ip : IpAddress) (egress : EgressId)
  | removeRoute (subnet : Subnet)
  | createGroup (members : List EgressId)
  | destroyGroup (id : GroupId)

variable {δ : Type} [Bus δ]

namespace RoutingRequest

/-- The switch after a request, whatever became of it. -/
def serve : RoutingRequest → Switch δ → Switch δ
  | createInterface mac vlan => Operation.after (Switch.createInterface mac vlan)
  | destroyInterface id => Operation.after (Switch.destroyInterface id)
  | createEgress egress => Operation.after (Switch.createEgress egress)
  | destroyEgress id => Operation.after (Switch.destroyEgress id)
  | addRoute subnet target => Operation.after (Switch.addRoute subnet target)
  | addHost ip egress => Operation.after (Switch.addHost ip egress)
  | removeRoute subnet => Operation.after (Switch.removeRoute subnet)
  | createGroup members => Operation.after (Switch.createGroup members)
  | destroyGroup id => Operation.after (Switch.destroyGroup id)

end RoutingRequest

namespace Switch

variable {sw : Switch δ}

/-- The switch after a list of requests. -/
def serveAll (sw : Switch δ) (requests : List RoutingRequest) : Switch δ :=
  requests.foldl (fun sw request => request.serve sw) sw

omit [Bus δ] in
/-- An operation on what is routed leaves the record as it leaves it there. -/
theorem after_onRouting {α : Type} {op : Operation (Routing × δ) α} {P : Routing → Prop}
    (h : Ends op (sw.routing, sw.bus) (fun _ t => P t.1) fun _ t => P t.1) :
    P (Operation.after (onRouting op) sw).routing :=
  Ends.after (P := fun sw : Switch δ => P sw.routing) (Ends.focus h)

omit [Bus δ] in
theorem answer_onRouting {α : Type} (op : Operation (Routing × δ) α) (sw : Switch δ) :
    Operation.answer (onRouting op) sw = Operation.answer op (sw.routing, sw.bus) := by
  unfold Operation.answer onRouting Operation.focus
  cases op (sw.routing, sw.bus) <;> rfl

end Switch

/-! ### A request keeps the record intact -/

namespace Routing

variable {r : Routing} {bus : δ}

theorem addHost_intact (h : r.Intact) (ip : IpAddress) (egress : EgressId) :
    Ends (addHost ip egress) (r, bus) (fun _ t => t.1.Intact) fun _ t => t.1.Intact := by
  cases ip with
  | v4 addr =>
      exact (addRoute_ends Bus.tells_true h _ _).mono (fun _ _ hq => hq.2.2.2.1)
        fun _ _ he => he.kept.intact
  | v6 addr => exact Operation.ends_error rfl h

end Routing

theorem RoutingRequest.serve_intact (request : RoutingRequest) {sw : Switch δ}
    (h : sw.routing.Intact) : (request.serve sw).routing.Intact := by
  have ht := Bus.tells_true (δ := δ)
  cases request with
  | createInterface mac vlan =>
      exact Switch.after_onRouting ((Routing.createInterface_ends ht h mac vlan).mono
        (fun _ _ hq => hq.2.2.1) fun _ _ he => he.kept.intact)
  | destroyInterface id =>
      refine Switch.after_onRouting ((Routing.destroyInterface_ends ht h id).mono ?_ ?_)
      · rintro _ t ⟨c, -, -, -, hi, -⟩
        exact hi
      · rintro _ t ⟨rfl, -⟩
        exact h
  | createEgress egress =>
      exact Switch.after_onRouting ((Routing.createEgress_ends ht h sw.board egress).mono
        (fun _ _ hq => hq.2.2.1) fun _ _ he => he.kept.intact)
  | destroyEgress id =>
      refine Switch.after_onRouting ((Routing.destroyEgress_ends ht h id).mono ?_ ?_)
      · rintro _ t ⟨c, -, -, -, hi, -⟩
        exact hi
      · rintro _ t ⟨rfl, -⟩
        exact h
  | addRoute subnet target =>
      exact Switch.after_onRouting ((Routing.addRoute_ends ht h subnet target).mono
        (fun _ _ hq => hq.2.2.2.1) fun _ _ he => he.kept.intact)
  | addHost ip egress => exact Switch.after_onRouting (Routing.addHost_intact h ip egress)
  | removeRoute subnet =>
      refine Switch.after_onRouting ((Routing.removeRoute_ends ht h subnet).mono ?_ ?_)
      · rintro _ t ⟨old, -, -, hi, -⟩
        exact hi
      · rintro _ t ⟨rfl, -⟩
        exact h
  | createGroup members =>
      exact Switch.after_onRouting ((Routing.createGroup_ends ht h members).mono
        (fun _ _ hq => hq.2.2.1) fun _ _ he => he.kept.intact)
  | destroyGroup id =>
      refine Switch.after_onRouting ((Routing.destroyGroup_ends ht h id).mono ?_ ?_)
      · rintro _ t ⟨c, places, -, -, -, hi, -⟩
        exact hi
      · rintro _ t ⟨rfl, -⟩
        exact h

theorem Switch.serveAll_intact (requests : List RoutingRequest) {sw : Switch δ}
    (h : sw.routing.Intact) : (sw.serveAll requests).routing.Intact := by
  induction requests generalizing sw with
  | nil => exact h
  | cons request requests ih => exact ih (request.serve_intact h)

/-! ### What is in use is busy -/

namespace Routing

variable {r : Routing} {bus : δ} {id : Nat}

/-- Some egress object is built on an interface. -/
def InterfaceUsed (r : Routing) (id : InterfaceId) : Prop :=
  ∃ e c, r.egresses.get? e = some c ∧ c.value.interface = id

/-- Some route forwards to a target. -/
def TargetUsed (r : Routing) (target : RouteTarget) : Prop :=
  ∃ s route, r.routes.get? s = some route ∧ route.target = target

/-- Some group has an egress object among its members. -/
def MemberUsed (r : Routing) (id : EgressId) : Prop :=
  ∃ g c, r.groups.get? g = some c ∧ id ∈ c.value.members

theorem builtOn_pos_iff : 0 < r.builtOn id ↔ r.InterfaceUsed id := by
  rw [Nat.pos_iff_ne_zero, ne_eq, builtOn_eq_zero_iff]
  simp only [InterfaceUsed, ne_eq, not_forall, not_not, exists_prop]

theorem routesTo_pos_iff {target : RouteTarget} : 0 < r.routesTo target ↔ r.TargetUsed target := by
  rw [Nat.pos_iff_ne_zero, ne_eq, routesTo_eq_zero_iff]
  simp only [TargetUsed, ne_eq, not_forall, not_not, exists_prop]

theorem memberships_pos_iff : 0 < r.memberships id ↔ r.MemberUsed id := by
  rw [Nat.pos_iff_ne_zero, ne_eq, memberships_eq_zero_iff]
  simp only [MemberUsed, not_forall, not_not, exists_prop]

/-- The answer to the destruction of something that is there: it is busy exactly when it is used,
and destroyed otherwise. -/
structure RefusesUsed (answer : Except Error Unit) (busy : Busy) (used : Prop) : Prop where
  busy_iff : answer = .error (.busy busy) ↔ used
  ok_iff : answer = .ok () ↔ ¬ used

omit [Bus δ] in
theorem refusesUsed_of_ends {op : Operation (Routing × δ) Unit} {s : Routing × δ} {busy : Busy}
    {used : Prop} (h : Ends op s (fun _ _ => ¬ used) fun e _ => used ∧ e = .busy busy) :
    RefusesUsed (Operation.answer op s) busy used := by
  unfold Operation.answer
  cases hop : op s with
  | ok u t =>
      have hu := h.of_ok hop
      exact ⟨⟨nofun, fun hused => absurd hused hu⟩, ⟨fun _ => hu, fun _ => rfl⟩⟩
  | error e t =>
      obtain ⟨hu, rfl⟩ := h.of_error hop
      exact ⟨⟨fun _ => hu, fun _ => rfl⟩, ⟨nofun, fun hn => absurd hu hn⟩⟩

theorem destroyInterface_refuses (h : r.Intact) (hid : r.interfaces.contains id = true) :
    RefusesUsed (Operation.answer (destroyInterface id) (r, bus)) (.interface id (r.builtOn id))
      (r.InterfaceUsed id) := by
  obtain ⟨c, hc⟩ := (KeyMap.contains_iff _ _).mp hid
  have hu := h.interface_users id c hc
  rw [← builtOn_pos_iff]
  refine refusesUsed_of_ends ((destroyInterface_ends Bus.tells_true h id).mono ?_ ?_)
  · rintro _ t ⟨c', hc', h0, -⟩
    cases hc.symm.trans hc'
    omega
  · rintro e t ⟨-, ⟨hn, -⟩ | ⟨c', hc', hpos, rfl⟩⟩
    · cases hc.symm.trans hn
    · cases hc.symm.trans hc'
      exact ⟨hu ▸ hpos, by rw [hu]⟩

theorem destroyEgress_refuses (h : r.Intact) (hid : r.egresses.contains id = true) :
    RefusesUsed (Operation.answer (destroyEgress id) (r, bus))
      (.egress id (r.routesTo (.egress id) + r.memberships id))
      (r.TargetUsed (.egress id) ∨ r.MemberUsed id) := by
  obtain ⟨c, hc⟩ := (KeyMap.contains_iff _ _).mp hid
  have hu := h.egress_users id c hc
  rw [← routesTo_pos_iff, ← memberships_pos_iff, ← Nat.add_pos_iff_pos_or_pos]
  refine refusesUsed_of_ends ((destroyEgress_ends Bus.tells_true h id).mono ?_ ?_)
  · rintro _ t ⟨c', hc', h0, -⟩
    cases hc.symm.trans hc'
    omega
  · rintro e t ⟨-, ⟨hn, -⟩ | ⟨c', hc', hpos, rfl⟩⟩
    · cases hc.symm.trans hn
    · cases hc.symm.trans hc'
      exact ⟨hu ▸ hpos, by rw [hu]⟩

theorem destroyGroup_refuses (h : r.Intact) (hid : r.groups.contains id = true) :
    RefusesUsed (Operation.answer (destroyGroup id) (r, bus)) (.group id (r.routesTo (.group id)))
      (r.TargetUsed (.group id)) := by
  obtain ⟨c, hc⟩ := (KeyMap.contains_iff _ _).mp hid
  have hu := h.group_users id c hc
  rw [← routesTo_pos_iff]
  refine refusesUsed_of_ends ((destroyGroup_ends Bus.tells_true h id).mono ?_ ?_)
  · rintro _ t ⟨c', places, hc', h0, -⟩
    cases hc.symm.trans hc'
    omega
  · rintro e t ⟨-, ⟨hn, -⟩ | ⟨c', hc', hpos, rfl⟩⟩
    · cases hc.symm.trans hn
    · cases hc.symm.trans hc'
      exact ⟨hu ▸ hpos, by rw [hu]⟩

end Routing

/-! ### Every run -/

/-- After every run of requests on a fresh switch, what the objects point at is there, they count
their users, the pools have out what they hold, and what is there is busy exactly when it is used. -/
theorem Switch.references_agree (board : Board) (bus : δ) (requests : List RoutingRequest) :
    let sw := (Switch.fresh board bus).serveAll requests
    sw.routing.Intact ∧
      (∀ id, sw.routing.interfaces.contains id = true →
        Routing.RefusesUsed (Operation.answer (Switch.destroyInterface id) sw)
          (.interface id (sw.routing.builtOn id)) (sw.routing.InterfaceUsed id)) ∧
      (∀ id, sw.routing.egresses.contains id = true →
        Routing.RefusesUsed (Operation.answer (Switch.destroyEgress id) sw)
          (.egress id (sw.routing.routesTo (.egress id) + sw.routing.memberships id))
          (sw.routing.TargetUsed (.egress id) ∨ sw.routing.MemberUsed id)) ∧
      ∀ id, sw.routing.groups.contains id = true →
        Routing.RefusesUsed (Operation.answer (Switch.destroyGroup id) sw)
          (.group id (sw.routing.routesTo (.group id))) (sw.routing.TargetUsed (.group id)) := by
  intro sw
  have h : sw.routing.Intact := Switch.serveAll_intact requests Routing.intact_fresh
  refine ⟨h, fun id hid => ?_, fun id hid => ?_, fun id hid => ?_⟩
  · rw [Switch.destroyInterface, Switch.answer_onRouting]
    exact Routing.destroyInterface_refuses h hid
  · rw [Switch.destroyEgress, Switch.answer_onRouting]
    exact Routing.destroyEgress_refuses h hid
  · rw [Switch.destroyGroup, Switch.answer_onRouting]
    exact Routing.destroyGroup_refuses h hid

end ControlPlane
