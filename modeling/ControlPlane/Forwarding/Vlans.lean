import ControlPlane.Board
import ControlPlane.Table.Access
import ControlPlane.Table.Vlan
import ControlPlane.VlanTag

/-! # VLANs

A VLAN is a set of ports, some of which are untagged.  It has an entry in each VLAN table, and both
are written whenever its ports change, the one for traffic on its way in first.  If the other cannot
be written, the first is put back to what it was.

A VLAN is recorded as changed only once both entries have been written. -/

namespace ControlPlane

/-- The ports of a VLAN as bitmaps. -/
structure VlanPorts where
  ports : Nat
  untagged : Nat
  deriving DecidableEq

namespace VlanPorts

def none : VlanPorts := ⟨0, 0⟩

def contains (v : VlanPorts) (p : PortId) : Bool := v.ports.testBit p.num

def isUntagged (v : VlanPorts) (p : PortId) : Bool := v.untagged.testBit p.num

/-- The set with a port in it, tagged or untagged. -/
def insert (v : VlanPorts) (p : PortId) (untagged : Bool) : VlanPorts :=
  ⟨Bits.putFlag v.ports p.num true, Bits.putFlag v.untagged p.num untagged⟩

/-- The set without a port. -/
def erase (v : VlanPorts) (p : PortId) : VlanPorts :=
  ⟨Bits.putFlag v.ports p.num false, Bits.putFlag v.untagged p.num false⟩

/-- The entry for traffic on its way in. -/
def ingress (v : VlanPorts) : VlanEntry := ⟨v.ports, v.ports, spanningTreeGroup, 0⟩

/-- The entry for traffic on its way out. -/
def egress (v : VlanPorts) : EgressVlanEntry := ⟨spanningTreeGroup, v.untagged, v.ports⟩

end VlanPorts

structure Vlans where
  members : KeyMap Nat VlanPorts

namespace Vlans

variable {δ : Type} [Bus δ]

def fresh : Vlans := ⟨∅⟩

/-- Puts the entry for traffic on its way in back to that of `prior`, if there was one. -/
def restore (vlan : Nat) (prior : Option VlanPorts) : Operation δ Unit :=
  match prior with
  | some p => Table.vlan.write vlan p.ingress.encode
  | none => Table.vlan.clear vlan

/-- Writes both entries of a VLAN, or leaves them as they were for `prior`. -/
def program (vlan : Nat) (v : VlanPorts) (prior : Option VlanPorts) : Operation δ Unit :=
  fun bus =>
    match Table.vlan.write vlan v.ingress.encode bus with
    | .error e bus => .error e bus
    | .ok _ bus =>
      Operation.orUndo (Table.egressVlan.write vlan v.egress.encode) (restore vlan prior) bus

/-- Writes a VLAN's ports and then records them. -/
def record (vlan : Nat) (v : VlanPorts) (prior : Option VlanPorts) :
    Operation (Vlans × δ) Unit := fun (s, bus) =>
  match program vlan v prior bus with
  | .ok _ bus => .ok () (⟨s.members.insert vlan v⟩, bus)
  | .error e bus => .error e (s, bus)

/-- Makes sure that a VLAN exists. -/
def ensure (vlan : Nat) : Operation (Vlans × δ) Unit := fun (s, bus) =>
  if s.members.contains vlan then
    .ok () (s, bus)
  else
    record vlan VlanPorts.none none (s, bus)

/-- Creates a VLAN without ports, unless it exists. -/
def create (vlan : Nat) : Operation (Vlans × δ) Unit := fun (s, bus) =>
  if VlanTag.IsVlan vlan then
    ensure vlan (s, bus)
  else
    .error (.invalid (.vlanTag vlan)) (s, bus)

/-- Adds a port to a VLAN, which is created if there is none. -/
def addPort (board : Board) (vlan : Nat) (port : PortId) (untagged : Bool) :
    Operation (Vlans × δ) Unit := fun (s, bus) =>
  if ¬ VlanTag.IsVlan vlan then
    .error (.invalid (.vlanTag vlan)) (s, bus)
  else if ¬ board.Has port then
    .error (.invalid (.beyondPorts port board.ports)) (s, bus)
  else
    match ensure vlan (s, bus) with
    | .error e s => .error e s
    | .ok _ (s, bus) =>
      let prior := (s.members.get? vlan).getD VlanPorts.none
      record vlan (prior.insert port untagged) (some prior) (s, bus)

/-- Removes a port from a VLAN. -/
def removePort (vlan : Nat) (port : PortId) : Operation (Vlans × δ) Unit := fun (s, bus) =>
  if ¬ VlanTag.IsVlan vlan then
    .error (.invalid (.vlanTag vlan)) (s, bus)
  else
    match s.members.get? vlan with
    | none => .error (.missing (.vlan vlan)) (s, bus)
    | some prior =>
      if prior.contains port then
        record vlan (prior.erase port) (some prior) (s, bus)
      else
        .error (.missing (.vlanPort port vlan)) (s, bus)

/-- Removes a VLAN, whether or not the chip can clear its entries. -/
def destroy (vlan : Nat) : Operation (Vlans × δ) Unit := fun (s, bus) =>
  if ¬ VlanTag.IsVlan vlan then
    .error (.invalid (.vlanTag vlan)) (s, bus)
  else if s.members.contains vlan then
    .ok () (⟨s.members.erase vlan⟩,
      Operation.after (Table.egressVlan.clear vlan)
        (Operation.after (Table.vlan.clear vlan) bus))
  else
    .error (.missing (.vlan vlan)) (s, bus)

/-- The ports of a VLAN. -/
def lookup (s : Vlans) (vlan : Nat) : Except Error VlanPorts :=
  if ¬ VlanTag.IsVlan vlan then
    .error (.invalid (.vlanTag vlan))
  else
    match s.members.get? vlan with
    | some v => .ok v
    | none => .error (.missing (.vlan vlan))

end Vlans

end ControlPlane
