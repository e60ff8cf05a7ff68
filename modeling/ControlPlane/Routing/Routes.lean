import ControlPlane.Routing.State
import ControlPlane.Table.Access
import ControlPlane.Table.Route

/-! # Adding and removing routes

Routes are keyed by canonical subnets, so the host bits of a subnet never matter.  A subnet that
already has a route keeps its slot when it gets another, so the chip never holds two entries for one
subnet. -/

namespace ControlPlane

namespace Subnet

/-- The canonical subnet of an address and a length. -/
def make (addr : Ipv4) (len : Nat) : Except Error Subnet :=
  if h : len ≤ 32 then .ok (canonical addr len h) else .error (.invalid (.prefixLength len))

end Subnet

namespace Routing

variable {δ : Type} [Bus δ]

/-- The slot that a subnet has, or one from the pool. -/
def slotFor (subnet : Subnet) : Operation Routing RouteSlot := fun r =>
  match r.routes.get? subnet with
  | some old => .ok old.slot r
  | none =>
    match r.routeSlots.alloc with
    | .ok slot slots => .ok slot { r with routeSlots := slots }
    | .error e slots => .error e { r with routeSlots := slots }

/-- Gives back a slot that was taken for a subnet without a route. -/
def giveSlot (r : Routing) (subnet : Subnet) (slot : RouteSlot) : Routing :=
  match r.routes.get? subnet with
  | some _ => r
  | none => { r with routeSlots := r.routeSlots.without slot }

/-- Records a subnet's route and counts its users. -/
def setRoute (r : Routing) (subnet : Subnet) (route : Route) : Routing :=
  let held := r.holdTarget route.target
  let settled :=
    match r.routes.get? subnet with
    | some old => held.dropTarget old.target
    | none => held
  { settled with routes := r.routes.insert subnet route }

/-- Adds a route, in place of an earlier one for its subnet. -/
def addRoute (subnet : Subnet) (target : RouteTarget) : Operation (Routing × δ) RouteSlot :=
  fun (r, bus) =>
    let key := subnet.canon
    if r.hasTarget target then
      match slotFor key r with
      | .error e r => .error e (r, bus)
      | .ok slot r =>
        match Table.route.write slot (RouteEntry.mk key target.isGroup target.index).encode bus with
        | .error e bus => .error e (r.giveSlot key slot, bus)
        | .ok _ bus => .ok slot (r.setRoute key ⟨slot, target⟩, bus)
    else
      .error (.invalid (.target target)) (r, bus)

/-- Removes the route of a subnet, whether or not the chip can clear its entry. -/
def removeRoute (subnet : Subnet) : Operation (Routing × δ) Unit := fun (r, bus) =>
  let key := subnet.canon
  match r.routes.get? key with
  | none => .error (.missing (.route key)) (r, bus)
  | some old =>
    let bus := Operation.after (Table.route.clear old.slot) bus
    let r := { r with routes := r.routes.erase key }
    match r.routeSlots.free old.slot with
    | .error e slots => .error e ({ r with routeSlots := slots }, bus)
    | .ok _ slots => .ok () ({ r with routeSlots := slots }.dropTarget old.target, bus)

/-- Adds a route to a single address, which must be an IPv4 address. -/
def addHost (ip : IpAddress) (egress : EgressId) : Operation (Routing × δ) RouteSlot :=
  match ip with
  | .v4 addr => addRoute (.host addr) (.egress egress)
  | .v6 addr => fun s => .error (.unsupported (.ipv6Host addr)) s

end Routing

end ControlPlane
