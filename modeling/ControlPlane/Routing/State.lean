import ControlPlane.Alloc.IndexPool
import ControlPlane.Alloc.SpanPool
import ControlPlane.Ipv4

/-! # What is routed

Routed forwarding knows four kinds of objects.  An *interface* supplies the source address of
routed packets.  An *egress* object is a next hop: a port, an interface and a destination address.
A *group* spreads traffic over several egress objects.  A *route* forwards a subnet to an egress
object or to a group.

Interfaces, egress objects and groups are `Counted`: each knows how many others point at it, and
stays as long as any does.  Routes are keyed by canonical subnets. -/

namespace ControlPlane

/-- The source addressing of routed packets. -/
structure Interface where
  mac : MacAddr
  vlan : Nat
  deriving DecidableEq

/-- A next hop. -/
structure Egress where
  /-- Destination address of the packets. -/
  mac : MacAddr
  port : PortId
  interface : InterfaceId
  deriving DecidableEq

structure Group where
  members : List EgressId
  /-- The first of the members' places in the member table. -/
  base : Nat
  deriving DecidableEq

structure Route where
  slot : RouteSlot
  target : RouteTarget
  deriving DecidableEq

/-- An object and the number of its users. -/
structure Counted (α : Type) where
  value : α
  users : Nat

namespace Counted

variable {α : Type}

/-- An object that nobody uses yet. -/
def unused (a : α) : Counted α := ⟨a, 0⟩

/-- One user more. -/
def hold (c : Counted α) : Counted α := { c with users := c.users + 1 }

/-- One user less. -/
def drop (c : Counted α) : Counted α := { c with users := c.users - 1 }

end Counted

/-- A map with the value at a key changed, if there is one. -/
def KeyMap.alter {κ β : Type} [Key κ] (m : KeyMap κ β) (k : κ) (f : β → β) : KeyMap κ β :=
  match m.get? k with
  | some b => m.insert k (f b)
  | none => m

/-- All objects of routed forwarding, and the pools that their indices come from. -/
structure Routing where
  interfaceIds : IndexPool
  interfaces : KeyMap InterfaceId (Counted Interface)
  egressIds : IndexPool
  egresses : KeyMap EgressId (Counted Egress)
  groupIds : IndexPool
  /-- The places of the member table. -/
  places : SpanPool
  groups : KeyMap GroupId (Counted Group)
  routeSlots : IndexPool
  routes : KeyMap Subnet Route

/-- The pool without an index that was out. -/
def IndexPool.without (p : IndexPool) (n : Nat) : IndexPool := Operation.after (IndexPool.free n) p

namespace Routing

def fresh : Routing where
  interfaceIds := .fresh .interfaces
  interfaces := ∅
  egressIds := .fresh .egresses
  egresses := ∅
  groupIds := .fresh .groups
  places := .fresh Table.member.name Table.member.depth
  groups := ∅
  routeSlots := .fresh .routes
  routes := ∅

/-! ### Users -/

def holdInterface (r : Routing) (id : InterfaceId) : Routing :=
  { r with interfaces := r.interfaces.alter id Counted.hold }

def dropInterface (r : Routing) (id : InterfaceId) : Routing :=
  { r with interfaces := r.interfaces.alter id Counted.drop }

def holdEgress (r : Routing) (id : EgressId) : Routing :=
  { r with egresses := r.egresses.alter id Counted.hold }

def dropEgress (r : Routing) (id : EgressId) : Routing :=
  { r with egresses := r.egresses.alter id Counted.drop }

def holdGroup (r : Routing) (id : GroupId) : Routing :=
  { r with groups := r.groups.alter id Counted.hold }

def dropGroup (r : Routing) (id : GroupId) : Routing :=
  { r with groups := r.groups.alter id Counted.drop }

/-- Whether what a route forwards to is there. -/
def hasTarget (r : Routing) : RouteTarget → Bool
  | .egress id => r.egresses.contains id
  | .group id => r.groups.contains id

def holdTarget (r : Routing) : RouteTarget → Routing
  | .egress id => r.holdEgress id
  | .group id => r.holdGroup id

def dropTarget (r : Routing) : RouteTarget → Routing
  | .egress id => r.dropEgress id
  | .group id => r.dropGroup id

/-! ### Looking things up -/

def interface (r : Routing) (id : InterfaceId) : Except Error Interface :=
  match r.interfaces.get? id with
  | some c => .ok c.value
  | none => .error (.missing (.interface id))

def egress (r : Routing) (id : EgressId) : Except Error Egress :=
  match r.egresses.get? id with
  | some c => .ok c.value
  | none => .error (.missing (.egress id))

def group (r : Routing) (id : GroupId) : Except Error Group :=
  match r.groups.get? id with
  | some c => .ok c.value
  | none => .error (.missing (.group id))

/-- The route of a subnet, whatever its host bits. -/
def route (r : Routing) (subnet : Subnet) : Except Error Route :=
  match r.routes.get? subnet.canon with
  | some route => .ok route
  | none => .error (.missing (.route subnet.canon))

/-- The egress objects built on an interface, in order. -/
def egressesOn (r : Routing) (id : InterfaceId) : List EgressId :=
  (r.egresses.toList.filter fun (_, c) => c.value.interface == id).map Prod.fst

/-- Counts one user more of a target that is there. -/
def hold (target : RouteTarget) : Operation Routing Unit := fun r =>
  if r.hasTarget target then
    .ok () (r.holdTarget target)
  else
    match target with
    | .egress id => .error (.invalid (.egress id)) r
    | .group id => .error (.invalid (.group id)) r

end Routing

end ControlPlane
