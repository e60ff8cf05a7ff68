import ControlPlane.Proofs.Alloc.IndexPool
import ControlPlane.Proofs.Alloc.SpanPool
import ControlPlane.Proofs.KeyMap

/-! # What ties the objects of routed forwarding together

The objects of a `Routing` point at each other, count their users, and hold indices and places of
the pools.  `Routing.Intact` says that all of this agrees:

* **Nothing dangles** (`Closed`).  What an object points at is there.
* **Counts are right** (`Tallied`).  The users that an object counts are the objects that point at
  it, a group's member as often as the group lists it.
* **Pools agree** (`Allotted`).  The indices that are out are those of the objects, every route has a
  slot of its own, and the places that are out are those of the groups, no two of which share one.

It follows which objects have no users, which is when they can go.  `Proofs.Routing.Changes` says that
each change of the record keeps it intact. -/

namespace ControlPlane

/-- Whether a place is one of the group's. -/
def Group.Occupies (g : Group) (n : Nat) : Prop := g.base ≤ n ∧ n < g.base + g.members.length

namespace Routing

/-! ### Users -/

/-- How many egress objects are built on an interface. -/
def builtOn (r : Routing) (id : InterfaceId) : Nat :=
  r.egresses.total fun c => if c.value.interface = id then 1 else 0

/-- How many routes forward to a target. -/
def routesTo (r : Routing) (target : RouteTarget) : Nat :=
  r.routes.total fun route => if route.target = target then 1 else 0

/-- How often an egress object is a member of a group. -/
def memberships (r : Routing) (id : EgressId) : Nat :=
  r.groups.total fun c => c.value.members.count id

/-- Whether a route has a slot. -/
def SlotUsed (r : Routing) (slot : RouteSlot) : Prop :=
  ∃ subnet route, r.routes.get? subnet = some route ∧ route.slot = slot

/-- Whether a group has a place. -/
def PlaceUsed (r : Routing) (n : Nat) : Prop :=
  ∃ id c, r.groups.get? id = some c ∧ c.value.Occupies n

/-- The same objects, with the cursors of all pools at their start. -/
def rewound (r : Routing) : Routing :=
  { r with
    interfaceIds := r.interfaceIds.rewound
    egressIds := r.egressIds.rewound
    groupIds := r.groupIds.rewound
    routeSlots := r.routeSlots.rewound }

/-! ### The invariant -/

/-- What an object points at is there. -/
structure Closed (r : Routing) : Prop where
  egress_interface : ∀ id c, r.egresses.get? id = some c →
    r.interfaces.contains c.value.interface = true
  group_member : ∀ id c, r.groups.get? id = some c →
    ∀ m ∈ c.value.members, r.egresses.contains m = true
  route_target : ∀ subnet route, r.routes.get? subnet = some route →
    r.hasTarget route.target = true

/-- Every object counts those that point at it. -/
structure Tallied (r : Routing) : Prop where
  interface_users : ∀ id c, r.interfaces.get? id = some c → c.users = r.builtOn id
  egress_users : ∀ id c, r.egresses.get? id = some c →
    c.users = r.routesTo (.egress id) + r.memberships id
  group_users : ∀ id c, r.groups.get? id = some c → c.users = r.routesTo (.group id)

/-- The pools have out what the objects hold. -/
structure Allotted (r : Routing) : Prop where
  interfaceIds : r.interfaceIds.Tracks .interfaces fun id => r.interfaces.contains id = true
  egressIds : r.egressIds.Tracks .egresses fun id => r.egresses.contains id = true
  groupIds : r.groupIds.Tracks .groups fun id => r.groups.contains id = true
  routeSlots : r.routeSlots.Tracks .routes r.SlotUsed
  slot_unique : ∀ s s' route route', r.routes.get? s = some route → r.routes.get? s' = some route' →
    route.slot = route'.slot → s = s'
  places : r.places.Tracks Table.member.depth r.PlaceUsed
  place_unique : ∀ id id' c c' n, r.groups.get? id = some c → r.groups.get? id' = some c' →
    c.value.Occupies n → c'.value.Occupies n → id = id'
  members_pos : ∀ id c, r.groups.get? id = some c → 0 < c.value.members.length
  span_le : ∀ id c, r.groups.get? id = some c →
    c.value.base + c.value.members.length ≤ Table.member.depth

structure Intact (r : Routing) : Prop extends Closed r, Tallied r, Allotted r

theorem intact_fresh : fresh.Intact where
  egress_interface := by simp [fresh]
  group_member := by simp [fresh]
  route_target := by simp [fresh]
  interface_users := by simp [fresh]
  egress_users := by simp [fresh]
  group_users := by simp [fresh]
  interfaceIds := (IndexPool.Tracks.fresh (by decide)).congr fun n => by
    simp [fresh, KeyMap.contains]
  egressIds := (IndexPool.Tracks.fresh (by decide)).congr fun n => by
    simp [fresh, KeyMap.contains]
  groupIds := (IndexPool.Tracks.fresh (by decide)).congr fun n => by
    simp [fresh, KeyMap.contains]
  routeSlots := (IndexPool.Tracks.fresh (by decide)).congr fun n => by simp [fresh, SlotUsed]
  slot_unique := by simp [fresh]
  places := (SpanPool.Tracks.fresh (by decide)).congr fun n _ => by simp [fresh, PlaceUsed]
  place_unique := by simp [fresh]
  members_pos := by simp [fresh]
  span_le := by simp [fresh]

/-! ### Objects without users -/

section users

variable {r : Routing} {id : Nat}

theorem builtOn_eq_zero_iff :
    r.builtOn id = 0 ↔ ∀ e c, r.egresses.get? e = some c → c.value.interface ≠ id := by
  simp [builtOn, KeyMap.total_eq_zero_iff]

theorem routesTo_eq_zero_iff {target : RouteTarget} :
    r.routesTo target = 0 ↔ ∀ s route, r.routes.get? s = some route → route.target ≠ target := by
  simp [routesTo, KeyMap.total_eq_zero_iff]

theorem memberships_eq_zero_iff :
    r.memberships id = 0 ↔ ∀ g c, r.groups.get? g = some c → id ∉ c.value.members := by
  simp [memberships, KeyMap.total_eq_zero_iff, List.count_eq_zero]

/-- Nothing is built on an interface that is not there. -/
theorem Closed.builtOn_eq_zero (h : r.Closed) (hid : r.interfaces.contains id = false) :
    r.builtOn id = 0 := by
  rw [builtOn_eq_zero_iff]
  rintro e c hc rfl
  rw [h.egress_interface e c hc] at hid
  cases hid

theorem Closed.routesTo_eq_zero (h : r.Closed) (target : RouteTarget)
    (ht : r.hasTarget target = false) : r.routesTo target = 0 := by
  rw [routesTo_eq_zero_iff]
  rintro s route hr rfl
  rw [h.route_target s route hr] at ht
  cases ht

theorem Closed.memberships_eq_zero (h : r.Closed) (hid : r.egresses.contains id = false) :
    r.memberships id = 0 := by
  rw [memberships_eq_zero_iff]
  intro g c hc hm
  rw [h.group_member g c hc id hm] at hid
  cases hid

end users

end Routing

end ControlPlane
