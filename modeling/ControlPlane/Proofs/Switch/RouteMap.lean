import ControlPlane.Proofs.Subnet
import ControlPlane.Proofs.Runs
import ControlPlane.Proofs.Routing.Objects
import ControlPlane.Proofs.Switch.FailedRequests
import ControlPlane.Proofs.Switch.RouteSlots
import Mathlib.Data.Finset.Range
import Mathlib.Data.Finset.Card

/-! # The routes as a map

Routes are kept by their canonical subnets, as in a map: what is looked up is the route that was added last,
unless it was removed since.  This is so whatever the device makes of each write, and whatever is created
and destroyed in between.  A route is replaced in its slot, and keeps it until it is removed.

* `RouteRun` is what a list of requests has led to, with the requests and whether they succeeded.  The
  history alone tells which routes there should be (`Stands`).
* **Step.**  `Routed.target_iff`: a request changes the routes that there are as `stands_concat_iff` says that
  it changes those that stand.  `Routed.slot_eq`: it moves none.
* **Run.**  `routes_refine_map`: after every run the routes are that map, each in a slot of its own, and there
  is no room for a new one only if there are as many as slots. -/

namespace ControlPlane

open Operation (Ends)

variable {δ : Type} {r r' : Routing} {subnet key : Subnet} {target : RouteTarget} {slot : RouteSlot}
  {request : RoutingRequest} {ok : Bool}

/-! ### Requests and keys -/

namespace RoutingRequest

/-- A request asks for a route of a key. -/
def Routes (request : RoutingRequest) (key : Subnet) (target : RouteTarget) : Prop :=
  ∃ subnet, request.route? = some (subnet, target) ∧ subnet.canon = key

/-- A request gives a key a route, or takes it from the key. -/
def Changes (request : RoutingRequest) (key : Subnet) : Prop :=
  (∃ target, request.Routes key target) ∨ ∃ subnet, request = .removeRoute subnet ∧ subnet.canon = key

theorem routes_iff (h : request.route? = some (subnet, target)) {target' : RouteTarget} :
    request.Routes key target' ↔ key = subnet.canon ∧ target' = target := by
  rw [Routes, h]
  constructor
  · rintro ⟨subnet', heq, rfl⟩
    cases heq
    exact ⟨rfl, rfl⟩
  · rintro ⟨rfl, rfl⟩
    exact ⟨subnet, rfl, rfl⟩

theorem changes_iff_of_route (h : request.route? = some (subnet, target)) :
    request.Changes key ↔ key = subnet.canon := by
  constructor
  · rintro (⟨target', hroutes⟩ | ⟨subnet', rfl, -⟩)
    · exact ((routes_iff h).mp hroutes).1
    · cases h
  · rintro rfl
    exact .inl ⟨target, subnet, h, rfl⟩

theorem changes_removeRoute_iff : (removeRoute subnet).Changes key ↔ key = subnet.canon := by
  constructor
  · rintro (⟨_, _, hroute, -⟩ | ⟨_, heq, rfl⟩)
    · cases hroute
    · cases heq
      rfl
  · rintro rfl
    exact .inr ⟨subnet, rfl, rfl⟩

theorem not_routes (h : request.route? = none) : ¬ request.Routes key target := by
  rintro ⟨subnet, hroute, -⟩
  cases h.symm.trans hroute

theorem not_changes (h : request.route? = none) (hremove : ∀ subnet, request ≠ .removeRoute subnet) :
    ¬ request.Changes key := by
  rintro (⟨target, hroutes⟩ | ⟨subnet, heq, -⟩)
  · exact not_routes h hroutes
  · exact hremove subnet heq

end RoutingRequest

/-! ### What becomes of the routes -/

/-- What becomes of the routes in a request: it fails and leaves them alone, or it enters or removes the one
of its key, or none if it asks for something else. -/
inductive Routing.Routed (r : Routing) : RoutingRequest → Bool → Routing → Prop where
  | failed {request : RoutingRequest} {r' : Routing} (hr : r'.view.route? = r.view.route?) :
      Routed r request false r'
  | added {request : RoutingRequest} {subnet : Subnet} {target : RouteTarget} {slot : RouteSlot}
      {r' : Routing} (hroute : request.route? = some (subnet, target))
      (hold : ∀ old, r.view.route? subnet.canon = some old → old.slot = slot)
      (hr : r'.view.route? = Function.update r.view.route? subnet.canon (some ⟨slot, target⟩)) :
      Routed r request true r'
  | removed {subnet : Subnet} {r' : Routing}
      (hr : r'.view.route? = Function.update r.view.route? subnet.canon none) :
      Routed r (.removeRoute subnet) true r'
  | other {request : RoutingRequest} {r' : Routing} (hroute : request.route? = none)
      (hremove : ∀ subnet, request ≠ .removeRoute subnet) (hr : r'.view.route? = r.view.route?) :
      Routed r request true r'

namespace Routing.Routed

/-- A request changes the routes that there are as it changes those that stand. -/
theorem target_iff (h : r.Routed request ok r') (key : Subnet) (target : RouteTarget) :
    (∃ slot, r'.view.route? key = some ⟨slot, target⟩) ↔ request.Routes key target ∧ ok = true ∨
      (∃ slot, r.view.route? key = some ⟨slot, target⟩) ∧ ¬ (ok = true ∧ request.Changes key) := by
  cases h with
  | failed hr => simp [hr]
  | @added _ subnet target' slot _ hroute hold hr =>
      rw [hr, RoutingRequest.routes_iff hroute, RoutingRequest.changes_iff_of_route hroute]
      by_cases hkey : key = subnet.canon
      · subst hkey
        simp [eq_comm]
      · simp [hkey]
  | @removed subnet _ hr =>
      have hroutes : ¬ (RoutingRequest.removeRoute subnet).Routes key target :=
        RoutingRequest.not_routes rfl
      rw [hr, RoutingRequest.changes_removeRoute_iff]
      by_cases hkey : key = subnet.canon
      · subst hkey
        simp [hroutes]
      · simp [hkey, hroutes]
  | other hroute hremove hr =>
      simp [hr, RoutingRequest.not_routes hroute, RoutingRequest.not_changes hroute hremove]

/-- A key that has a route before and after a request has it in the same slot. -/
theorem slot_eq (h : r.Routed request ok r') {route route' : Route}
    (hroute : r.view.route? key = some route) (hroute' : r'.view.route? key = some route') :
    route'.slot = route.slot := by
  cases h with
  | failed hr =>
      rw [hr, hroute] at hroute'
      cases hroute'
      rfl
  | added _ hold hr =>
      rw [hr, Function.update_apply] at hroute'
      split at hroute'
      · subst key
        cases hroute'
        exact (hold route hroute).symm
      · rw [hroute] at hroute'
        cases hroute'
        rfl
  | removed hr =>
      rw [hr, Function.update_apply] at hroute'
      split at hroute'
      · cases hroute'
      · rw [hroute] at hroute'
        cases hroute'
        rfl
  | other _ _ hr =>
      rw [hr, hroute] at hroute'
      cases hroute'
      rfl

end Routing.Routed

/-! ### One request -/

namespace RoutingRequest

variable [Bus δ] {sw : Switch δ}

theorem answer_route (h : request.route? = some (subnet, target)) :
    request.answer sw = (Operation.answer (Switch.addRoute subnet target) sw).map fun _ => () := by
  cases request with
  | addRoute s t =>
      cases h
      rfl
  | addHost ip egress =>
      cases ip with
      | v4 addr =>
          cases h
          rfl
      | v6 addr => cases h
  | _ => cases h

theorem serve_routed (request : RoutingRequest) (h : sw.routing.Intact) :
    sw.routing.Routed request (request.answer sw).isOk (request.serve sw).routing := by
  cases hroute : request.route? with
  | some route =>
      obtain ⟨subnet, target⟩ := route
      rw [serve_route hroute, answer_route hroute, Operation.isOk_map]
      refine Ends.isOk (P := fun ok (sw' : Switch δ) => sw.routing.Routed request ok sw'.routing)
        (Ends.focus ((Routing.addRoute_objects h subnet target).mono ?_ ?_))
      · rintro slot t ⟨hold, hobjects⟩
        exact .added hroute hold (congrArg Routing.View.route? hobjects.view_eq)
      · intro e t hobjects
        exact .failed (congrArg Routing.View.route? hobjects.view_eq)
  | none =>
      by_cases hremove : ∃ subnet, request = .removeRoute subnet
      · obtain ⟨subnet, rfl⟩ := hremove
        refine Ends.isOk
          (P := fun ok (sw' : Switch δ) => sw.routing.Routed (.removeRoute subnet) ok sw'.routing)
          (Ends.focus ((Routing.removeRoute_objects h subnet).mono ?_ ?_))
        · intro _ t hobjects
          exact .removed (congrArg Routing.View.route? hobjects.view_eq)
        · rintro e t rfl
          exact .failed rfl
      · have hother := not_exists.mp hremove
        have hr := request.routes_eq h hroute hother
        cases (request.answer sw).isOk with
        | false => exact .failed hr
        | true => exact .other hroute hother hr

end RoutingRequest

namespace Routing

/-! ### Subnets in requests -/

section canon

variable [Bus δ] {s s' : Subnet}

/-- The host bits of a subnet do not matter. -/
theorem addRoute_canon (h : s.canon = s'.canon) (target : RouteTarget) :
    (addRoute s target : Operation (Routing × δ) RouteSlot) = addRoute s' target := by
  funext ⟨r, bus⟩
  simp only [addRoute, h]

theorem removeRoute_canon (h : s.canon = s'.canon) :
    (removeRoute s : Operation (Routing × δ) Unit) = removeRoute s' := by
  funext ⟨r, bus⟩
  simp only [removeRoute, h]

end canon

/-! ### Room for a new route -/

/-- A route would need a slot of its own, and every slot is taken. -/
def NoRoom (r : Routing) (subnet : Subnet) (target : RouteTarget) : Prop :=
  r.hasTarget target = true ∧ r.routes.get? subnet.canon = none ∧ r.routeSlots.Full

variable [Bus δ] {bus : δ}

/-- What is refused in adding a route is not for want of room once there is a slot. -/
theorem addRoute_written (htarget : r.hasTarget target = true)
    (hslot : slotFor subnet.canon r = .ok slot r') (hroom : ¬ r.NoRoom subnet target) :
    Ends (addRoute subnet target) (r, bus) (fun _ _ => ¬ r.NoRoom subnet target)
      fun e _ => e = .full (.table IndexRange.routes.name) ↔ r.NoRoom subnet target := by
  cases hb : Table.route.write slot
      (RouteEntry.mk subnet.canon target.isGroup target.index).encode bus with
  | ok u bus' =>
      exact Operation.ends_ok (by simp only [addRoute, htarget, hslot, hb, if_true]; rfl) hroom
  | error e bus' =>
      refine Operation.ends_error (by simp only [addRoute, htarget, hslot, hb, if_true]; rfl)
        (iff_of_false ?_ hroom)
      exact (Table.write_ne_full _ _ _ bus).of_error hb _

/-- A route is refused for want of room exactly if there is none. -/
theorem addRoute_full (h : r.Intact) (bus : δ) (subnet : Subnet) (target : RouteTarget) :
    Ends (addRoute subnet target) (r, bus) (fun _ _ => ¬ r.NoRoom subnet target)
      fun e _ => e = .full (.table IndexRange.routes.name) ↔ r.NoRoom subnet target := by
  by_cases htarget : r.hasTarget target = true
  · cases hs : r.routes.get? subnet.canon with
    | some old =>
        refine addRoute_written htarget (by rw [slotFor, hs]) ?_
        rintro ⟨-, hnone, -⟩
        cases hs.symm.trans hnone
    | none =>
        cases ha : r.routeSlots.alloc with
        | error e slots =>
            obtain ⟨rfl, rfl, hfull⟩ := h.routeSlots.alloc_error ha
            exact Operation.ends_error
              (by simp only [addRoute, slotFor, htarget, hs, ha, if_true]; rfl)
              (iff_of_true rfl ⟨htarget, hs, hfull⟩)
        | ok slot slots =>
            obtain ⟨-, hn, hslot⟩ := h.routeSlots.alloc_ok ha
            refine addRoute_written htarget (by simp only [slotFor, hs, ha]; rfl) ?_
            rintro ⟨-, -, hfull⟩
            exact hslot ((h.routeSlots.contains_iff slot).mp (hfull slot (h.routeSlots.range_eq.symm ▸ hn)))
  · have hop : addRoute subnet target (r, bus) = .error (.invalid (.target target)) (r, bus) := by
      simp only [addRoute, htarget]
      rfl
    refine Operation.ends_error hop (iff_of_false ?_ fun hroom => htarget hroom.1)
    rintro ⟨⟩

theorem answer_full_iff (h : r.Intact) (subnet : Subnet) (target : RouteTarget) :
    Operation.answer (addRoute subnet target) (r, bus) = .error (.full (.table IndexRange.routes.name)) ↔
      r.NoRoom subnet target := by
  have hends := addRoute_full h bus subnet target
  cases hanswer : Operation.answer (addRoute subnet target) (r, bus) with
  | ok slot => exact iff_of_false nofun (hends.of_answer hanswer)
  | error e =>
      rw [Except.error.injEq]
      exact hends.of_failure hanswer

/-- Every slot is taken exactly if there are as many routes as slots. -/
theorem Intact.slots_full_iff (h : r.Intact) : r.routeSlots.Full ↔ r.routes.size = 8192 := by
  have hholds (n : Nat) : IndexRange.routes.Holds n ↔ n < 8192 := and_iff_right (Nat.zero_le n)
  have hsize : r.routes.size =
      ((Finset.range 8192).filter (r.routeSlots.contains · = true)).card := by
    refine KeyMap.size_eq_card h.slot_unique fun n => ?_
    rw [Finset.mem_filter, Finset.mem_range, h.routeSlots.contains_iff, ← hholds]
    exact and_iff_right_of_imp h.routeSlots.holds
  have hcard := Finset.card_filter_eq_iff (s := Finset.range 8192) (p := (r.routeSlots.contains · = true))
  rw [Finset.card_range] at hcard
  rw [hsize, hcard, IndexPool.Full, h.routeSlots.range_eq]
  simp only [hholds, Finset.mem_range]

/-! ### Looking a route up -/

theorem route_ok_iff {route : Route} :
    r.route subnet = .ok route ↔ r.view.route? subnet.canon = some route := by
  change _ ↔ r.routes.get? subnet.canon = some route
  rw [Routing.route]
  cases r.routes.get? subnet.canon <;> simp

theorem route_missing_iff :
    r.route subnet = .error (.missing (.route subnet.canon)) ↔ r.view.route? subnet.canon = none := by
  change _ ↔ r.routes.get? subnet.canon = none
  rw [Routing.route]
  cases r.routes.get? subnet.canon <;> simp

theorem route_congr (h : r'.view.route? = r.view.route?) (subnet : Subnet) :
    r'.route subnet = r.route subnet := by
  change r'.routes.get? = r.routes.get? at h
  rw [Routing.route, Routing.route, h]

end Routing

/-- A route that is added is in the slot that is answered. -/
theorem Switch.addRoute_found [Bus δ] {sw : Switch δ} (h : sw.routing.Intact)
    (subnet : Subnet) (target : RouteTarget) :
    Ends (addRoute subnet target) sw
      (fun slot sw' => sw'.routing.view.route? subnet.canon = some ⟨slot, target⟩) fun _ _ => True := by
  refine Ends.focus ((Routing.addRoute_objects h subnet target).mono ?_ fun _ _ _ => trivial)
  rintro slot t ⟨-, hobjects⟩
  exact (congrArg (·.route? subnet.canon) hobjects.view_eq).trans (Routing.View.setRoute_self _)

/-! ### Every run -/

/-- What some requests have led to, with the requests and whether they succeeded, the first one first. -/
structure RouteRun (δ : Type) where
  switch : Switch δ
  history : List (RoutingRequest × Bool)

namespace RouteRun

variable [Bus δ] {run : RouteRun δ}

def call (run : RouteRun δ) (request : RoutingRequest) : RouteRun δ :=
  ⟨request.serve run.switch, run.history ++ [(request, (request.answer run.switch).isOk)]⟩

/-- The run that goes on with further requests. -/
def calls (run : RouteRun δ) (requests : List RoutingRequest) : RouteRun δ := requests.foldl call run

/-- The run of some requests, on a fresh switch. -/
def of (board : Board) (bus : δ) (requests : List RoutingRequest) : RouteRun δ :=
  calls ⟨.fresh board bus, []⟩ requests

/-- A route to a target was added to a key, and no later request that changes the key has succeeded. -/
def Leads (run : RouteRun δ) (key : Subnet) (target : RouteTarget) : Prop :=
  Stands (·.Routes key target) (·.Changes key) run.history

/-- The routes are a map, the one that the requests have made of them. -/
structure Refines (run : RouteRun δ) : Prop where
  /-- What is looked up is where the route that was added last leads. -/
  found : ∀ subnet target, (∃ slot, run.switch.routing.route subnet = .ok ⟨slot, target⟩) ↔
    run.Leads subnet.canon target
  missing : ∀ subnet, run.switch.routing.route subnet = .error (.missing (.route subnet.canon)) ↔
    ¬ ∃ target, run.Leads subnet.canon target
  /-- Subnets that agree in length and in the bits that count are the same to every operation. -/
  same : ∀ s s' : Subnet, s.len = s'.len →
    s.addr.bits &&& Subnet.mask s.len = s'.addr.bits &&& Subnet.mask s'.len →
    (∀ target, (Switch.addRoute s target : Operation (Switch δ) RouteSlot) = Switch.addRoute s' target) ∧
      (Switch.removeRoute s : Operation (Switch δ) Unit) = Switch.removeRoute s' ∧
      run.switch.routing.route s = run.switch.routing.route s'
  /-- A route to an address is one to any subnet of that address alone. -/
  host : ∀ addr egress (s : Subnet), s.len = 32 →
    s.addr.bits &&& Subnet.mask 32 = addr.bits &&& Subnet.mask 32 →
    (Switch.addHost (.v4 addr) egress : Operation (Switch δ) RouteSlot) =
      Switch.addRoute s (.egress egress)
  /-- A route that is added is in the slot that is answered. -/
  added : ∀ subnet target slot, Operation.answer (Switch.addRoute subnet target) run.switch = .ok slot →
    (Operation.after (Switch.addRoute subnet target) run.switch).routing.route subnet = .ok ⟨slot, target⟩
  /-- A key keeps its slot for as long as it has a route. -/
  kept : ∀ (later : List RoutingRequest) subnet route, run.switch.routing.route subnet = .ok route →
    (∀ k ≤ later.length, ∃ route', (run.calls (later.take k)).switch.routing.route subnet = .ok route') →
    ∃ target, (run.calls later).switch.routing.route subnet = .ok ⟨route.slot, target⟩
  apart : ∀ s s' route route', run.switch.routing.route s = .ok route →
    run.switch.routing.route s' = .ok route' → route.slot = route'.slot → s.canon = s'.canon
  bounded : ∀ subnet route, run.switch.routing.route subnet = .ok route → route.slot < 8192
  /-- There is no room for a route exactly if its key is new, its target exists and all slots are taken. -/
  full : ∀ (request : RoutingRequest) subnet target, request.route? = some (subnet, target) →
    (request.answer run.switch = .error (.full (.table IndexRange.routes.name)) ↔
      run.switch.routing.route subnet = .error (.missing (.route subnet.canon)) ∧
        run.switch.routing.hasTarget target = true ∧ run.switch.routing.routes.size = 8192)
  /-- A request that fails leaves every route in force. -/
  unchanged : ∀ request : RoutingRequest, (request.answer run.switch).isOk = false →
    ∀ subnet, (request.serve run.switch).routing.route subnet = run.switch.routing.route subnet

/-- What each request keeps: the record is intact, and the routes that stand are there. -/
structure Kept (run : RouteRun δ) : Prop where
  intact : run.switch.routing.Intact
  target_iff : ∀ key target,
    (∃ slot, run.switch.routing.view.route? key = some ⟨slot, target⟩) ↔ run.Leads key target

omit [Bus δ] in
theorem kept_start (board : Board) (bus : δ) : Kept ⟨.fresh board bus, []⟩ where
  intact := Routing.intact_fresh
  target_iff key target := iff_of_false (fun ⟨_, h⟩ => by cases h) not_stands_nil

namespace Kept

theorem call (h : run.Kept) (request : RoutingRequest) : (run.call request).Kept where
  intact := request.serve_intact h.intact
  target_iff key target := by
    refine ((request.serve_routed h.intact).target_iff key target).trans ?_
    rw [h.target_iff]
    refine Iff.symm ?_
    change Stands _ _ (run.history ++ [(request, (request.answer run.switch).isOk)]) ↔ _
    exact stands_concat_iff

/-- A key that has a route throughout has it in one slot. -/
theorem slot_kept (h : run.Kept) (later : List RoutingRequest) {route : Route}
    (hroute : run.switch.routing.view.route? key = some route)
    (hthere : ∀ k ≤ later.length, ∃ route',
      (run.calls (later.take k)).switch.routing.view.route? key = some route') :
    ∃ target, (run.calls later).switch.routing.view.route? key = some ⟨route.slot, target⟩ := by
  induction later generalizing run route with
  | nil => exact ⟨route.target, hroute⟩
  | cons request later ih =>
      obtain ⟨route', hroute'⟩ := hthere 1 (Nat.le_add_left 1 _)
      have hslot := (request.serve_routed h.intact).slot_eq hroute hroute'
      obtain ⟨target, htarget⟩ := ih (h.call request) hroute' fun k hk =>
        hthere (k + 1) (Nat.succ_le_succ hk)
      exact ⟨target, hslot ▸ htarget⟩

theorem full_iff (h : run.Kept) (hroute : request.route? = some (subnet, target)) :
    request.answer run.switch = .error (.full (.table IndexRange.routes.name)) ↔
      run.switch.routing.route subnet = .error (.missing (.route subnet.canon)) ∧
        run.switch.routing.hasTarget target = true ∧ run.switch.routing.routes.size = 8192 := by
  have hanswer : request.answer run.switch = .error (.full (.table IndexRange.routes.name)) ↔
      Operation.answer (Routing.addRoute subnet target) (run.switch.routing, run.switch.bus) =
        .error (.full (.table IndexRange.routes.name)) := by
    rw [RoutingRequest.answer_route hroute, Switch.addRoute, Switch.answer_onRouting]
    cases Operation.answer (Routing.addRoute subnet target) (run.switch.routing, run.switch.bus) <;>
      simp [Except.map]
  rw [hanswer, Routing.answer_full_iff h.intact, Routing.NoRoom, h.intact.slots_full_iff,
    Routing.route_missing_iff]
  exact and_left_comm

theorem refines (h : run.Kept) : run.Refines where
  found subnet target := by
    simp only [Routing.route_ok_iff]
    exact h.target_iff subnet.canon target
  missing subnet := by
    rw [Routing.route_missing_iff]
    simp only [← h.target_iff]
    cases run.switch.routing.view.route? subnet.canon with
    | none => exact iff_of_true rfl fun ⟨_, _, hsome⟩ => by cases hsome
    | some route => exact iff_of_false nofun fun hnone => hnone ⟨route.target, route.slot, rfl⟩
  same s s' hlen hbits := by
    have hcanon := (Subnet.canon_eq_iff s s').mpr ⟨hlen, hbits⟩
    refine ⟨fun target => ?_, ?_, ?_⟩
    · rw [Switch.addRoute, Switch.addRoute, Routing.addRoute_canon hcanon]
    · rw [Switch.removeRoute, Switch.removeRoute, Routing.removeRoute_canon hcanon]
    · rw [Routing.route, Routing.route, hcanon]
  host addr egress s hlen hbits := by
    have hcanon : s.canon = (Subnet.host addr).canon :=
      (Subnet.canon_eq_iff _ _).mpr ⟨hlen, by rw [hlen]; exact hbits⟩
    rw [Switch.addHost, Switch.addRoute, Routing.addHost, Routing.addRoute_canon hcanon]
  added subnet target slot hanswer := by
    exact Routing.route_ok_iff.mpr ((Switch.addRoute_found h.intact subnet target).of_answer hanswer)
  kept later subnet route hroute hthere := by
    simp only [Routing.route_ok_iff] at hroute hthere ⊢
    exact h.slot_kept later hroute hthere
  apart s s' route route' hroute hroute' :=
    h.intact.slot_unique _ _ route route' (Routing.route_ok_iff.mp hroute) (Routing.route_ok_iff.mp hroute')
  bounded subnet route hroute :=
    (h.intact.routeSlots.holds ⟨subnet.canon, route, Routing.route_ok_iff.mp hroute, rfl⟩).2
  full _ _ _ := h.full_iff
  unchanged request hfails subnet := by
    have hrouted := request.serve_routed h.intact
    rw [hfails] at hrouted
    cases hrouted with
    | failed hr => exact Routing.route_congr hr subnet

end Kept

end RouteRun

/-- After every run of requests on a fresh switch, with any arguments and whatever the device answers to each
write, the routes are the map that the requests have made of them. -/
theorem routes_refine_map (board : Board) (bus : δ) [Bus δ] (requests : List RoutingRequest) :
    (RouteRun.of board bus requests).Refines := by
  refine RouteRun.Kept.refines (List.foldlRecOn (motive := RouteRun.Kept) requests RouteRun.call
    (RouteRun.kept_start board bus) ?_)
  intro run h request _
  exact h.call request

end ControlPlane
