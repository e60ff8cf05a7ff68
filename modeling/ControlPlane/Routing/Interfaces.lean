import ControlPlane.Board
import ControlPlane.Routing.State
import ControlPlane.Table.Access
import ControlPlane.Table.Hop
import ControlPlane.VlanTag

/-! # Creating and destroying interfaces and egress objects

An object is recorded once the chip has taken all of its entries; if the chip refuses one, its
index goes back to the pool and entries already written are cleared.  An object that is destroyed
is gone whether or not the chip could clear its entries, and one with users is not destroyed.  A
pool that does not take the index of an object back makes its destruction fail.

The ingress half of a next hop is written first, so that the chip never finds an egress half
without a port. -/

namespace ControlPlane.Routing

variable {δ : Type} [Bus δ]

/-! ### Interfaces -/

def createInterface (mac : MacAddr) (vlan : Nat) : Operation (Routing × δ) InterfaceId :=
  fun (r, bus) =>
    if ¬ VlanTag.IsTag vlan then
      .error (.invalid (.vlanTag vlan)) (r, bus)
    else
      match r.interfaceIds.alloc with
      | .error e ids => .error e ({ r with interfaceIds := ids }, bus)
      | .ok id ids =>
        match Table.interface.write id (InterfaceEntry.mk mac vlan).encode bus with
        | .error e bus => .error e ({ r with interfaceIds := ids.without id }, bus)
        | .ok _ bus =>
          .ok id
            ({ r with
                interfaceIds := ids
                interfaces := r.interfaces.insert id (.unused ⟨mac, vlan⟩) }, bus)

def destroyInterface (id : InterfaceId) : Operation (Routing × δ) Unit := fun (r, bus) =>
  match r.interfaces.get? id with
  | none => .error (.missing (.interface id)) (r, bus)
  | some c =>
    if 0 < c.users then
      .error (.busy (.interface id c.users)) (r, bus)
    else
      let bus := Operation.after (Table.interface.clear id) bus
      let r := { r with interfaces := r.interfaces.erase id }
      match r.interfaceIds.free id with
      | .error e ids => .error e ({ r with interfaceIds := ids }, bus)
      | .ok _ ids => .ok () ({ r with interfaceIds := ids }, bus)

/-! ### Egress objects -/

/-- The entry that picks the output port. -/
def ingressHop (e : Egress) : IngressHop := ⟨unicastHop, e.port.num, 0⟩

/-- The entry that picks the interface and destination. -/
def egressHop (e : Egress) : EgressHop := ⟨unicastHop, e.interface, e.mac⟩

/-- Writes both halves of a next hop, or neither. -/
def writeHop (id : EgressId) (e : Egress) : Operation δ Unit := fun bus =>
  match Table.ingressHop.write id (ingressHop e).encode bus with
  | .error e bus => .error e bus
  | .ok _ bus =>
    Operation.orUndo (Table.egressHop.write id (egressHop e).encode)
      (Table.ingressHop.clear id) bus

def createEgress (board : Board) (e : Egress) : Operation (Routing × δ) EgressId :=
  fun (r, bus) =>
    if ¬ board.Has e.port then
      .error (.invalid (.beyondPorts e.port board.ports)) (r, bus)
    else if r.interfaces.contains e.interface then
      match r.egressIds.alloc with
      | .error why ids => .error why ({ r with egressIds := ids }, bus)
      | .ok id ids =>
        match writeHop id e bus with
        | .error why bus => .error why ({ r with egressIds := ids.without id }, bus)
        | .ok _ bus =>
          .ok id
            ({ r.holdInterface e.interface with
                egressIds := ids
                egresses := r.egresses.insert id (.unused e) }, bus)
    else
      .error (.invalid (.interface e.interface)) (r, bus)

def destroyEgress (id : EgressId) : Operation (Routing × δ) Unit := fun (r, bus) =>
  match r.egresses.get? id with
  | none => .error (.missing (.egress id)) (r, bus)
  | some c =>
    if 0 < c.users then
      .error (.busy (.egress id c.users)) (r, bus)
    else
      let bus := Operation.after (Table.egressHop.clear id)
        (Operation.after (Table.ingressHop.clear id) bus)
      let r := { r with egresses := r.egresses.erase id }
      match r.egressIds.free id with
      | .error e ids => .error e ({ r with egressIds := ids }, bus)
      | .ok _ ids => .ok () ({ r with egressIds := ids }.dropInterface c.value.interface, bus)

end ControlPlane.Routing
