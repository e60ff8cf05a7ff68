import ControlPlane.Proofs.Routing.Operations
import Mathlib.Logic.Function.Basic

/-! # What is routed, without counts and pools

A `View` has the objects of a record and nothing else: no counts, no pools, no groups.  On a record
without groups every operation is a change of the view at one place, which is how those who own
interfaces, egress objects and routes see it.  The counts can be told from it (`Intact.interface_eq`,
`Plain.egress_eq`).

The operations are described again in these terms.  `Shows` says that a record which was reached is
intact, has no groups and shows a given view. -/

namespace ControlPlane.Routing

open Operation (Ends)

/-- The objects of routed forwarding. -/
structure View where
  interface? : InterfaceId → Option Interface
  egress? : EgressId → Option Egress
  route? : Subnet → Option Route

namespace View

def setInterface (v : View) (id : InterfaceId) (i : Option Interface) : View :=
  { v with interface? := Function.update v.interface? id i }

def setEgress (v : View) (id : EgressId) (e : Option Egress) : View :=
  { v with egress? := Function.update v.egress? id e }

def setRoute (v : View) (subnet : Subnet) (route : Option Route) : View :=
  { v with route? := Function.update v.route? subnet route }

/-- The view without an egress object, if one is named. -/
def drop? (v : View) : Option EgressId → View
  | some id => v.setEgress id none
  | none => v

/-- Some route leads to an egress object. -/
def Routed (v : View) (id : EgressId) : Prop :=
  ∃ s route, v.route? s = some route ∧ route.target = .egress id

/-- The view with a new egress object and the route of a subnet leading to it. -/
def provide (v : View) (key : Subnet) (e : Egress) (id : EgressId) (slot : RouteSlot) : View :=
  (v.setEgress id (some e)).setRoute key (some ⟨slot, .egress id⟩)

/-- An index for a new egress object, and the slot for a subnet's route to it. -/
structure Fresh (v : View) (key : Subnet) (id : EgressId) (slot : RouteSlot) : Prop where
  holds : IndexRange.egresses.Holds id
  free : v.egress? id = none
  slot_eq : ∀ old, v.route? key = some old → slot = old.slot

/-- Every index of an interface is taken. -/
def InterfacesFull (v : View) : Prop :=
  ∀ id, IndexRange.interfaces.Holds id → v.interface? id ≠ none

/-- Every index of an egress object is taken. -/
def EgressesFull (v : View) : Prop :=
  ∀ id, IndexRange.egresses.Holds id → v.egress? id ≠ none

/-- Every slot of a route is taken. -/
def SlotsFull (v : View) : Prop :=
  ∀ slot, IndexRange.routes.Holds slot → ∃ s route, v.route? s = some route ∧ route.slot = slot

variable {v : View} {id a : EgressId} {s k : Subnet}

theorem setInterface_interface? (i : Option Interface) (b : InterfaceId) :
    (v.setInterface id i).interface? b = if b = id then i else v.interface? b :=
  Function.update_apply _ _ _ _

@[simp] theorem setEgress_interface? (e : Option Egress) :
    (v.setEgress id e).interface? = v.interface? := rfl

@[simp] theorem setEgress_route? (e : Option Egress) : (v.setEgress id e).route? = v.route? := rfl

@[simp] theorem setRoute_interface? (route : Option Route) :
    (v.setRoute s route).interface? = v.interface? := rfl

@[simp] theorem setRoute_egress? (route : Option Route) :
    (v.setRoute s route).egress? = v.egress? := rfl

@[simp] theorem setEgress_self (e : Option Egress) : (v.setEgress id e).egress? id = e := by
  simp [setEgress]

theorem setEgress_of_ne (e : Option Egress) (h : a ≠ id) :
    (v.setEgress id e).egress? a = v.egress? a := by
  simp [setEgress, h]

@[simp] theorem setRoute_self (route : Option Route) : (v.setRoute s route).route? s = route := by
  simp [setRoute]

theorem setRoute_of_ne (route : Option Route) (h : k ≠ s) :
    (v.setRoute s route).route? k = v.route? k := by
  simp [setRoute, h]

/-- What is left once a route has gone was there before. -/
theorem route?_of_setRoute {route : Route} (h : (v.setRoute s none).route? k = some route) :
    v.route? k = some route := by
  by_cases hk : k = s
  · rw [hk, setRoute_self] at h
    cases h
  · rwa [setRoute_of_ne _ hk] at h

@[simp] theorem drop?_route? (o : Option EgressId) : (v.drop? o).route? = v.route? := by
  cases o <;> rfl

@[simp] theorem drop?_interface? (o : Option EgressId) : (v.drop? o).interface? = v.interface? := by
  cases o <;> rfl

theorem drop?_egress?_of_ne {o : Option EgressId} (h : o ≠ some a) :
    (v.drop? o).egress? a = v.egress? a := by
  cases o with
  | none => rfl
  | some b => exact setEgress_of_ne none fun hab => h (hab ▸ rfl)

theorem egress?_of_drop? {o : Option EgressId} {e : Egress} (h : (v.drop? o).egress? a = some e) :
    v.egress? a = some e := by
  by_cases ho : o = some a
  · rw [ho, drop?, setEgress_self] at h
    cases h
  · rwa [drop?_egress?_of_ne ho] at h

@[simp] theorem routed_drop?_iff (o : Option EgressId) : (v.drop? o).Routed id ↔ v.Routed id := by
  simp [Routed]

theorem drop?_comm (v : View) (o o' : Option EgressId) :
    (v.drop? o).drop? o' = (v.drop? o').drop? o := by
  cases o with
  | none => rfl
  | some a =>
      cases o' with
      | none => rfl
      | some b =>
          by_cases h : a = b
          · rw [h]
          · simp only [drop?, setEgress, Function.update_comm h]

@[simp] theorem drop?_self : (v.drop? (some id)).egress? id = none := setEgress_self none

theorem setEgress_eq_self (h : v.egress? id = none) : v.setEgress id none = v := by
  rw [setEgress, ← h, Function.update_eq_self]

theorem setRoute_eq_self (h : v.route? s = none) : v.setRoute s none = v := by
  rw [setRoute, ← h, Function.update_eq_self]

/-- An egress object that was not there leaves nothing when it goes again. -/
theorem setEgress_none (e : Option Egress) (h : v.egress? id = none) :
    (v.setEgress id e).setEgress id none = v := by
  rw [setEgress, setEgress, Function.update_idem]
  exact setEgress_eq_self h

@[simp] theorem provide_interface? (v : View) (key : Subnet) (e : Egress) (slot : RouteSlot) :
    (v.provide key e id slot).interface? = v.interface? := rfl

theorem provide_egress? (v : View) (key : Subnet) (e : Egress) (slot : RouteSlot) :
    (v.provide key e id slot).egress? a = if a = id then some e else v.egress? a :=
  Function.update_apply _ _ _ _

theorem provide_route? (v : View) (key : Subnet) (e : Egress) (slot : RouteSlot) :
    (v.provide key e id slot).route? k = if k = key then some ⟨slot, .egress id⟩ else v.route? k :=
  Function.update_apply _ _ _ _

end View

/-! ### The view of a record -/

variable {r : Routing}

def view (r : Routing) : View where
  interface? id := (r.interfaces.get? id).map Counted.value
  egress? id := (r.egresses.get? id).map Counted.value
  route? := r.routes.get?

/-- Intact, and without groups. -/
structure Plain (r : Routing) : Prop extends Intact r where
  no_groups : ∀ id, r.groups.get? id = none

theorem plain_fresh : fresh.Plain := { intact_fresh with no_groups := by simp [fresh] }

theorem Plain.memberships_eq_zero (h : r.Plain) (id : EgressId) : r.memberships id = 0 :=
  memberships_eq_zero_iff.mpr fun g c hg => by
    rw [h.no_groups g] at hg
    cases hg

theorem map_value_insert {κ α : Type} [Key κ] [DecidableEq κ] (m : KeyMap κ (Counted α)) (k : κ)
    (a : α) :
    (fun id => ((m.insert k (.unused a)).get? id).map Counted.value) =
      Function.update (fun id => (m.get? id).map Counted.value) k (some a) := by
  funext id
  by_cases h : k = id
  · subst h; simp [Counted.unused]
  · rw [KeyMap.get?_insert_of_ne _ _ h, Function.update_of_ne (Ne.symm h)]

theorem map_value_erase {κ α : Type} [Key κ] [DecidableEq κ] (m : KeyMap κ (Counted α)) (k : κ) :
    (fun id => ((m.erase k).get? id).map Counted.value) =
      Function.update (fun id => (m.get? id).map Counted.value) k none := by
  funext id
  by_cases h : k = id
  · subst h; simp
  · rw [KeyMap.get?_erase_of_ne _ h, Function.update_of_ne (Ne.symm h)]

theorem map_value_recounts {κ α : Type} [Key κ] {m m' : KeyMap κ (Counted α)}
    {count : κ → Nat → Nat} (h : m.Recounts m' count) :
    (fun id => (m'.get? id).map Counted.value) = fun id => (m.get? id).map Counted.value := by
  funext id
  rw [h id, Option.map_map]
  rfl

theorem Recounts.view_eq {r' : Routing} {count : RouteTarget → Nat → Nat}
    (h : r.Recounts r' count) : r'.view = r.view := by
  rw [h.eq, view, view]
  simp only [map_value_recounts h.egresses]

theorem view_eq_of_rewound {r' : Routing} (h : r'.rewound = r.rewound) : r'.view = r.view := by
  have hi : r'.interfaces = r.interfaces := congrArg (·.interfaces) h
  have he : r'.egresses = r.egresses := congrArg (·.egresses) h
  have hr : r'.routes = r.routes := congrArg (·.routes) h
  rw [view, view, hi, he, hr]

theorem Kept.plain {r' : Routing} (h : r.Plain) (hk : r.Kept r') : r'.Plain where
  toIntact := hk.intact
  no_groups := by
    have hg : r'.groups = r.groups := congrArg (·.groups) hk.rewound_eq
    rw [hg]
    exact h.no_groups

theorem Recounts.no_groups {r' : Routing} {count : RouteTarget → Nat → Nat}
    (h : r.Recounts r' count) (hr : ∀ id, r.groups.get? id = none) (id : GroupId) :
    r'.groups.get? id = none := by
  rw [h.groups id, hr id]
  rfl

theorem setRoute_eq (r : Routing) (subnet : Subnet) (route : Route) :
    ∃ r' count, r.Recounts r' count ∧
      r.setRoute subnet route = { r' with routes := r.routes.insert subnet route } := by
  unfold setRoute
  cases r.routes.get? subnet with
  | none => exact ⟨_, _, holdTarget_recounts r route.target, rfl⟩
  | some old =>
      exact ⟨_, _, (holdTarget_recounts r route.target).trans (dropTarget_recounts _ old.target), rfl⟩

theorem view_setRoute (subnet : Subnet) (route : Route) :
    (r.setRoute subnet route).view = r.view.setRoute subnet (some route) := by
  obtain ⟨r', count, hr, he⟩ := setRoute_eq r subnet route
  rw [he, View.setRoute, ← hr.view_eq, view, KeyMap.get?_insert_eq_update]
  rw [hr.eq]
  rfl

/-! ### Users in the view -/

/-- The egress objects that are shown on an interface are the users that it counts. -/
theorem builtOn_congr {r' : Routing} {id : InterfaceId} (h : ∀ a e, e.interface = id →
    (r'.view.egress? a = some e ↔ r.view.egress? a = some e)) : r'.builtOn id = r.builtOn id := by
  have hshown (r : Routing) (a : EgressId) : (∃ c, r.egresses.get? a = some c ∧ c.value.interface = id) ↔
      ∃ e, e.interface = id ∧ r.view.egress? a = some e := by
    simp [view, and_comm]
  refine KeyMap.total_indicator_congr fun a => ?_
  rw [hshown, hshown]
  exact exists_congr fun e => and_congr_right fun he => h a e he

theorem routesTo_congr {r' : Routing} {target : RouteTarget} (h : ∀ s route, route.target = target →
    (r'.view.route? s = some route ↔ r.view.route? s = some route)) :
    r'.routesTo target = r.routesTo target :=
  KeyMap.total_indicator_congr fun s =>
    exists_congr fun route => and_congr_left fun ht => h s route ht

/-- Objects that are shown alike and count alike are alike. -/
theorem counted_ext {α : Type} {o o' : Option (Counted α)} (hv : o'.map Counted.value = o.map Counted.value)
    (hu : ∀ c c', o = some c → o' = some c' → c'.users = c.users) : o' = o := by
  cases o with
  | none => simpa using hv
  | some c =>
      obtain ⟨⟨value, users⟩, rfl, hvalue⟩ := Option.map_eq_some_iff.mp hv
      obtain rfl : value = c.value := hvalue
      obtain rfl : users = c.users := hu c _ rfl rfl
      rfl

/-- An interface that is shown as before is as before, users included, if the egress objects on it are. -/
theorem Intact.interface_eq {r' : Routing} (h : r.Intact) (h' : r'.Intact) {id : InterfaceId}
    (hid : r'.view.interface? id = r.view.interface? id)
    (hon : ∀ a e, e.interface = id → (r'.view.egress? a = some e ↔ r.view.egress? a = some e)) :
    r'.interfaces.get? id = r.interfaces.get? id :=
  counted_ext hid fun c c' hc hc' => by
    rw [h'.interface_users id c' hc', h.interface_users id c hc, builtOn_congr hon]

/-- An egress object that is shown as before is as before, users included, if the routes to it are. -/
theorem Plain.egress_eq {r' : Routing} (h : r.Plain) (h' : r'.Plain) {id : EgressId}
    (hid : r'.view.egress? id = r.view.egress? id)
    (hto : ∀ s route, route.target = .egress id →
      (r'.view.route? s = some route ↔ r.view.route? s = some route)) :
    r'.egresses.get? id = r.egresses.get? id :=
  counted_ext hid fun c c' hc hc' => by
    rw [h'.egress_users id c' hc', h.egress_users id c hc, routesTo_congr hto,
      h.memberships_eq_zero, h'.memberships_eq_zero]

/-! ### The operations on the view -/

section operations

variable {δ : Type} {refused : δ → Prop} {bus : δ}

/-- A record without groups that shows a view, and a device that has not forgotten refusals. -/
structure Shows (refused : δ → Prop) (bus : δ) (v : View) (t : Routing × δ) : Prop where
  plain : t.1.Plain
  view_eq : t.1.view = v
  persists : refused bus → refused t.2

theorem Failed.shows {cause : Prop} {t : Routing × δ} (h : r.Plain)
    (hf : Failed refused r bus cause t) : Shows refused bus r.view t :=
  ⟨hf.kept.plain h, view_eq_of_rewound hf.kept.rewound_eq, hf.persists⟩

theorem contains_interfaces_eq_false_iff {id : InterfaceId} :
    r.interfaces.contains id = false ↔ r.view.interface? id = none := by
  simp [KeyMap.contains_eq_false_iff, view]

theorem contains_egresses_eq_false_iff {id : EgressId} :
    r.egresses.contains id = false ↔ r.view.egress? id = none := by
  simp [KeyMap.contains_eq_false_iff, view]

theorem mem_egressesOn_iff {id : InterfaceId} {a : EgressId} :
    a ∈ r.egressesOn id ↔ ∃ e, r.view.egress? a = some e ∧ e.interface = id := by
  simp [egressesOn, view, KeyMap.mem_toList_iff]

/-- What a route leads to is there. -/
theorem Intact.egress_of_routed (h : r.Intact) {id : EgressId} (hid : r.view.Routed id) :
    r.view.egress? id ≠ none := by
  obtain ⟨s, route, hs, ht⟩ := hid
  have hlive := h.route_target s route hs
  rw [ht] at hlive
  intro hnone
  rw [← contains_egresses_eq_false_iff] at hnone
  rw [hasTarget, hnone] at hlive
  cases hlive

theorem interfaceIds_full_iff (h : r.Intact) : r.interfaceIds.Full ↔ r.view.InterfacesFull := by
  unfold IndexPool.Full View.InterfacesFull
  rw [h.interfaceIds.range_eq]
  refine forall₂_congr fun id _ => ?_
  rw [h.interfaceIds.contains_iff, ← Bool.not_eq_false, contains_interfaces_eq_false_iff]

theorem egressIds_full_iff (h : r.Intact) : r.egressIds.Full ↔ r.view.EgressesFull := by
  unfold IndexPool.Full View.EgressesFull
  rw [h.egressIds.range_eq]
  refine forall₂_congr fun id _ => ?_
  rw [h.egressIds.contains_iff, ← Bool.not_eq_false, contains_egresses_eq_false_iff]

theorem routeSlots_full_iff (h : r.Intact) : r.routeSlots.Full ↔ r.view.SlotsFull := by
  unfold IndexPool.Full View.SlotsFull
  rw [h.routeSlots.range_eq]
  exact forall₂_congr fun slot _ => h.routeSlots.contains_iff slot

variable [Bus δ]

theorem createInterface_shows (ht : Bus.Tells refused) (h : r.Plain) (mac : MacAddr) (vlan : Nat) :
    Ends (createInterface mac vlan) (r, bus)
      (fun id t => r.view.interface? id = none ∧
        Shows refused bus (r.view.setInterface id (some ⟨mac, vlan⟩)) t)
      (fun _ t => Shows refused bus r.view t ∧
        (refused t.2 ∨ ¬ VlanTag.IsTag vlan ∨ r.view.InterfacesFull)) := by
  refine (createInterface_ends ht h.toIntact mac vlan).mono ?_ ?_
  · rintro id ⟨r', bus'⟩ ⟨hid, rfl, hi, hp⟩
    refine ⟨contains_interfaces_eq_false_iff.mp hid, { hi with no_groups := h.no_groups }, ?_, hp⟩
    simp only [view, View.setInterface, map_value_insert]
  · intro _ t hf
    rw [← interfaceIds_full_iff h.toIntact]
    exact ⟨hf.shows h, hf.reason⟩

/-- An interface is gone after its destruction, unless it was not there or egress objects are built
on it. -/
theorem destroyInterface_shows (ht : Bus.Tells refused) (h : r.Plain) (id : InterfaceId) :
    Ends (destroyInterface id) (r, bus)
      (fun _ t => Shows refused bus (r.view.setInterface id none) t)
      (fun _ t => t = (r, bus) ∧ (r.view.interface? id = none ∨
        ∃ a e, r.view.egress? a = some e ∧ e.interface = id)) := by
  refine (destroyInterface_ends ht h.toIntact id).mono ?_ ?_
  · rintro _ ⟨r', bus'⟩ ⟨c, hc, hu, rfl, hi, hp⟩
    refine ⟨{ hi with no_groups := h.no_groups }, ?_, hp⟩
    simp only [view, View.setInterface, map_value_erase]
  · rintro _ t ⟨rfl, ⟨hn, -⟩ | ⟨c, hc, hpos, -⟩⟩
    · exact ⟨rfl, .inl (by simp [view, hn])⟩
    · rw [h.interface_users id c hc, Nat.pos_iff_ne_zero, Ne, builtOn_eq_zero_iff] at hpos
      push Not at hpos
      obtain ⟨a, c', ha, hi⟩ := hpos
      exact ⟨rfl, .inr ⟨a, c'.value, by simp [view, ha], hi⟩⟩

theorem createEgress_shows (ht : Bus.Tells refused) (h : r.Plain) (board : Board) (e : Egress) :
    Ends (createEgress board e) (r, bus)
      (fun id t => (IndexRange.egresses.Holds id ∧ r.view.egress? id = none) ∧
        Shows refused bus (r.view.setEgress id (some e)) t)
      (fun _ t => Shows refused bus r.view t ∧ (refused t.2 ∨ ¬ board.Has e.port ∨
        r.view.interface? e.interface = none ∨ r.view.EgressesFull)) := by
  refine (createEgress_ends ht h.toIntact board e).mono ?_ ?_
  · rintro id ⟨r', bus'⟩ ⟨hid, rfl, hi, hp⟩
    have hn : IndexRange.egresses.Holds id :=
      hi.egressIds.holds ((KeyMap.contains_insert_iff _ _ _ _).mpr (.inr rfl))
    refine ⟨⟨hn, contains_egresses_eq_false_iff.mp hid⟩, { hi with no_groups := h.no_groups }, ?_, hp⟩
    simp only [view, View.setEgress, holdInterface, map_value_insert,
      map_value_recounts (KeyMap.Recounts.alter_hold r.interfaces e.interface)]
  · intro _ t hf
    rw [← egressIds_full_iff h.toIntact, ← contains_interfaces_eq_false_iff]
    exact ⟨hf.shows h, hf.reason⟩

/-- An egress object that no route leads to is gone after its destruction, if it was there. -/
theorem destroyEgress_shows (ht : Bus.Tells refused) (h : r.Plain) {id : EgressId}
    (hid : ¬ r.view.Routed id) :
    Ends (destroyEgress id) (r, bus)
      (fun _ t => Shows refused bus (r.view.setEgress id none) t)
      (fun _ t => Shows refused bus (r.view.setEgress id none) t) := by
  refine (destroyEgress_ends ht h.toIntact id).mono ?_ ?_
  · rintro _ ⟨r', bus'⟩ ⟨c, hc, hu, rfl, hi, hp⟩
    refine ⟨{ hi with no_groups := h.no_groups }, ?_, hp⟩
    simp only [view, View.setEgress, dropInterface, map_value_erase,
      map_value_recounts (KeyMap.Recounts.alter_drop r.interfaces c.value.interface)]
  · rintro _ t ⟨rfl, ⟨hn, -⟩ | ⟨c, hc, hpos, -⟩⟩
    · have hnone : r.view.egress? id = none := by simp [view, hn]
      exact ⟨h, (View.setEgress_eq_self hnone).symm, fun hr => hr⟩
    · rw [h.egress_users id c hc] at hpos
      have hm := h.memberships_eq_zero id
      have hr : r.routesTo (.egress id) = 0 :=
        routesTo_eq_zero_iff.mpr fun s route hs ht => hid ⟨s, route, hs, ht⟩
      omega

theorem addRoute_shows (ht : Bus.Tells refused) (h : r.Plain) (subnet : Subnet) (id : EgressId) :
    Ends (addRoute subnet (.egress id)) (r, bus)
      (fun slot t => (∀ old, r.view.route? subnet.canon = some old → slot = old.slot) ∧
        Shows refused bus (r.view.setRoute subnet.canon (some ⟨slot, .egress id⟩)) t)
      (fun _ t => Shows refused bus r.view t ∧ (refused t.2 ∨ r.view.egress? id = none ∨
        r.view.route? subnet.canon = none ∧ r.view.SlotsFull)) := by
  refine (addRoute_ends ht h.toIntact subnet (.egress id)).mono ?_ ?_
  · rintro slot ⟨r', bus'⟩ ⟨-, hslot, ⟨slots, rfl⟩, hi, hp⟩
    refine ⟨hslot, ⟨hi, ?_⟩, view_setRoute _ _, hp⟩
    obtain ⟨r'', count, hr, he⟩ := setRoute_eq { r with routeSlots := slots } subnet.canon
      ⟨slot, .egress id⟩
    rw [he]
    exact hr.no_groups h.no_groups
  · intro _ t hf
    rw [← routeSlots_full_iff h.toIntact, ← contains_egresses_eq_false_iff]
    exact ⟨hf.shows h, hf.reason⟩

theorem removeRoute_shows (ht : Bus.Tells refused) (h : r.Plain) (subnet : Subnet) :
    Ends (removeRoute subnet) (r, bus)
      (fun _ t => r.view.route? subnet.canon ≠ none ∧
        Shows refused bus (r.view.setRoute subnet.canon none) t)
      (fun e t => t = (r, bus) ∧ r.view.route? subnet.canon = none ∧
        e = .missing (.route subnet.canon)) := by
  refine (removeRoute_ends ht h.toIntact subnet).mono ?_ fun _ _ he => he
  rintro _ ⟨r', bus'⟩ ⟨old, hs, rfl, hi, hp⟩
  have hr := dropTarget_recounts { r with
    routeSlots := r.routeSlots.putBack old.slot
    routes := r.routes.erase subnet.canon } old.target
  refine ⟨by simp [view, hs], ⟨hi, hr.no_groups h.no_groups⟩, ?_, hp⟩
  rw [hr.view_eq]
  simp only [view, View.setRoute, KeyMap.get?_erase_eq_update]

end operations

end ControlPlane.Routing
