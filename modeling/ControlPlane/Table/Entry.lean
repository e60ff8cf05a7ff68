import ControlPlane.Table.Bridge
import ControlPlane.Table.Group
import ControlPlane.Table.Hop
import ControlPlane.Table.Route
import ControlPlane.Table.Vlan

/-! # The entries of every table

Each table has a type of entries, an encoder and a decoder.  `Table.decodeEntry` answers nothing if
it would have to read past the end of the words, and otherwise the entry that they spell, if they
spell one. -/

namespace ControlPlane.Table

/-- The type of a table's entries. -/
@[reducible] def Entry : Table → Type
  | station => StationEntry
  | trap => TrapEntry
  | interface => InterfaceEntry
  | ingressHop => IngressHop
  | egressHop => EgressHop
  | route => RouteEntry
  | vlan => VlanEntry
  | egressVlan => EgressVlanEntry
  | member => MemberEntry
  | group => GroupEntry

/-- The words that hold an entry. -/
def encodeEntry : (t : Table) → t.Entry → List UInt32
  | station => StationEntry.encode
  | trap => TrapEntry.encode
  | interface => InterfaceEntry.encode
  | ingressHop => IngressHop.encode
  | egressHop => EgressHop.encode
  | route => RouteEntry.encode
  | vlan => VlanEntry.encode
  | egressVlan => EgressVlanEntry.encode
  | member => MemberEntry.encode
  | group => GroupEntry.encode

/-- The entry that words hold. -/
def decodeEntry : (t : Table) → List UInt32 → Option (Option t.Entry)
  | station => StationEntry.decode
  | trap => TrapEntry.decode
  | interface => InterfaceEntry.decode
  | ingressHop => IngressHop.decode
  | egressHop => EgressHop.decode
  | route => RouteEntry.decode
  | vlan => VlanEntry.decode
  | egressVlan => EgressVlanEntry.decode
  | member => MemberEntry.decode
  | group => GroupEntry.decode

end ControlPlane.Table
