import ControlPlane.Proofs.Routing.Requests
import ControlPlane.Proofs.Switch.Runs

/-! # Requests that fail

A request to routed forwarding that fails has been partly carried out: an index has been taken, places
for a group, several entries written, and something of it refused.  All that was taken is given back.

* **Step.**  `RoutingRequest.serve_keeps`: a failure leaves an intact record of the same objects, counts
  and pools, in which only the cursors of the pools may have moved.
* **Run.**  `Switch.failure_keeps_objects`: so it does after every run of requests, whatever the device
  answers to each write. -/

namespace ControlPlane

open Operation (Ends)

variable {δ : Type} [Bus δ]

/-- What a request answers, apart from the index of what it has created. -/
def RoutingRequest.answer : RoutingRequest → Switch δ → Except Error Unit
  | createInterface mac vlan, sw =>
    (Operation.answer (Switch.createInterface mac vlan) sw).map fun _ => ()
  | destroyInterface id, sw => Operation.answer (Switch.destroyInterface id) sw
  | createEgress egress, sw => (Operation.answer (Switch.createEgress egress) sw).map fun _ => ()
  | destroyEgress id, sw => Operation.answer (Switch.destroyEgress id) sw
  | addRoute subnet target, sw =>
    (Operation.answer (Switch.addRoute subnet target) sw).map fun _ => ()
  | addHost ip egress, sw => (Operation.answer (Switch.addHost ip egress) sw).map fun _ => ()
  | removeRoute subnet, sw => Operation.answer (Switch.removeRoute subnet) sw
  | createGroup members, sw => (Operation.answer (Switch.createGroup members) sw).map fun _ => ()
  | destroyGroup id, sw => Operation.answer (Switch.destroyGroup id) sw

omit [Bus δ] in
/-- What an operation on what is routed leaves behind if it fails. -/
theorem Switch.keeps_of_fails {α : Type} {op : Operation (Routing × δ) α} {sw : Switch δ} {e : Error}
    (h : Ends op (sw.routing, sw.bus) (fun _ _ => True) fun _ t => sw.routing.Kept t.1)
    (he : Operation.answer (onRouting op) sw = .error e) :
    sw.routing.Kept (Operation.after (onRouting op) sw).routing :=
  (Ends.focus h : Ends (onRouting op) sw (fun _ _ => True)
    fun _ sw' => sw.routing.Kept sw'.routing).of_failure he

theorem error_of_map {ε α β : Type} {f : α → β} {x : Except ε α} {e : ε} (h : x.map f = .error e) :
    x = .error e := by
  cases x with
  | ok a => cases h
  | error e' =>
      cases h
      rfl

theorem Routing.addHost_keeps {r : Routing} {bus : δ} (h : r.Intact) (ip : IpAddress)
    (egress : EgressId) :
    Ends (addHost ip egress) (r, bus) (fun _ _ => True) fun _ t => r.Kept t.1 := by
  cases ip with
  | v4 addr =>
      exact (addRoute_ends Bus.tells_true h _ _).mono (fun _ _ _ => trivial) fun _ _ he => he.kept
  | v6 addr => exact Operation.ends_error rfl h.kept

theorem RoutingRequest.serve_keeps (request : RoutingRequest) {sw : Switch δ}
    (h : sw.routing.Intact) {e : Error} (he : request.answer sw = .error e) :
    sw.routing.Kept (request.serve sw).routing := by
  have ht := Bus.tells_true (δ := δ)
  cases request with
  | createInterface mac vlan =>
      refine Switch.keeps_of_fails ?_ (error_of_map he)
      exact (Routing.createInterface_ends ht h mac vlan).mono (fun _ _ _ => trivial)
        fun _ _ hf => hf.kept
  | createEgress egress =>
      refine Switch.keeps_of_fails ?_ (error_of_map he)
      exact (Routing.createEgress_ends ht h sw.board egress).mono (fun _ _ _ => trivial)
        fun _ _ hf => hf.kept
  | addRoute subnet target =>
      refine Switch.keeps_of_fails ?_ (error_of_map he)
      exact (Routing.addRoute_ends ht h subnet target).mono (fun _ _ _ => trivial)
        fun _ _ hf => hf.kept
  | addHost ip egress =>
      exact Switch.keeps_of_fails (Routing.addHost_keeps h ip egress) (error_of_map he)
  | createGroup members =>
      refine Switch.keeps_of_fails ?_ (error_of_map he)
      exact (Routing.createGroup_ends ht h members).mono (fun _ _ _ => trivial)
        fun _ _ hf => hf.kept
  -- A destruction fails before it changes anything.
  | destroyInterface id =>
      refine Switch.keeps_of_fails ((Routing.destroyInterface_ends ht h id).mono
        (fun _ _ _ => trivial) ?_) he
      rintro _ t ⟨rfl, -⟩
      exact h.kept
  | destroyEgress id =>
      refine Switch.keeps_of_fails ((Routing.destroyEgress_ends ht h id).mono
        (fun _ _ _ => trivial) ?_) he
      rintro _ t ⟨rfl, -⟩
      exact h.kept
  | removeRoute subnet =>
      refine Switch.keeps_of_fails ((Routing.removeRoute_ends ht h subnet).mono
        (fun _ _ _ => trivial) ?_) he
      rintro _ t ⟨rfl, -⟩
      exact h.kept
  | destroyGroup id =>
      refine Switch.keeps_of_fails ((Routing.destroyGroup_ends ht h id).mono
        (fun _ _ _ => trivial) ?_) he
      rintro _ t ⟨rfl, -⟩
      exact h.kept

/-- After every run of requests on a fresh switch, whatever the device answers to each write: a request
that fails leaves all objects, what they count and what the pools have out as they were. -/
theorem Switch.failure_keeps_objects (board : Board) (bus : δ) (requests : List RoutingRequest)
    (request : RoutingRequest) {e : Error} :
    let sw := (Switch.fresh board bus).serveAll requests
    request.answer sw = .error e → (request.serve sw).routing.rewound = sw.routing.rewound := by
  intro sw he
  have h : sw.routing.Intact := Switch.serveAll_intact requests Routing.intact_fresh
  exact (request.serve_keeps h he).rewound_eq

/-- An interface and two egress objects. -/
def RoutingRequest.paired : List RoutingRequest := [
  .createInterface ⟨2, 0, 0, 0, 0, 1⟩ 7,
  .createEgress ⟨⟨2, 0, 0, 0, 0, 8⟩, default, 1⟩,
  .createEgress ⟨⟨2, 0, 0, 0, 0, 9⟩, default, 1⟩]

/-- A group whose descriptor is refused after its places were written gives all of it back. -/
theorem Switch.failure_keeps_objects_group :
    let refusing := Channel.driven.setFaults false [(0x0e174000, 0x0e176000)]
    let sw := (Switch.fresh ⟨48, Board.defaultStem, Board.defaultMacBase⟩ refusing).serveAll
      RoutingRequest.paired
    let left := (RoutingRequest.createGroup [1, 2]).serve sw
    left.routing.groupIds.cursor ≠ sw.routing.groupIds.cursor ∧
      left.routing.places.free = sw.routing.places.free ∧
      left.routing.rewound = sw.routing.rewound := by
  intro refusing sw left
  have hfails : (RoutingRequest.answer (.createGroup [1, 2]) sw).isOk = false := by decide +kernel
  obtain ⟨e, he⟩ := Operation.exists_error_of_isOk hfails
  have hkept : left.routing.rewound = sw.routing.rewound :=
    failure_keeps_objects ⟨48, Board.defaultStem, Board.defaultMacBase⟩ refusing
      RoutingRequest.paired (.createGroup [1, 2]) he
  exact ⟨by decide +kernel, congrArg (·.places.free) hkept, hkept⟩

end ControlPlane
