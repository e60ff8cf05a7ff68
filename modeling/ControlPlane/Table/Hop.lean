import ControlPlane.MacAddr
import ControlPlane.Table.Field

/-! # Entries of routed forwarding

An `InterfaceEntry` holds the source address and VLAN of routed packets.  A next hop has two
halves with one index: the `IngressHop` picks the output port, and the `EgressHop` picks the
interface and the destination address.

None of these tables has a bit for validity, so every entry decodes. -/

namespace ControlPlane

structure InterfaceEntry where
  mac : MacAddr
  vlan : Nat
  deriving DecidableEq

namespace InterfaceEntry

def vlanField : Field := ⟨13, 12⟩

def macField : Field := ⟨33, 48⟩

def encode (e : InterfaceEntry) : List UInt32 :=
  Fields.encode .interface [(vlanField, e.vlan), (macField, e.mac.toNat)]

def decode (words : List UInt32) : Option (Option InterfaceEntry) := do
  let mac ← macField.read? words
  let vlan ← vlanField.read? words
  return some ⟨.ofNat mac, vlan⟩

end InterfaceEntry

/-- The type of a hop that forwards to one destination. -/
def unicastHop : Nat := 0

structure IngressHop where
  type : Nat
  port : Nat
  module : Nat
  deriving DecidableEq

namespace IngressHop

def typeField : Field := ⟨0, 2⟩

def portField : Field := ⟨16, 7⟩

def moduleField : Field := ⟨23, 8⟩

def encode (e : IngressHop) : List UInt32 :=
  Fields.encode .ingressHop [(typeField, e.type), (portField, e.port), (moduleField, e.module)]

def decode (words : List UInt32) : Option (Option IngressHop) := do
  let type ← typeField.read? words
  let port ← portField.read? words
  let module ← moduleField.read? words
  return some ⟨type, port, module⟩

end IngressHop

structure EgressHop where
  type : Nat
  interface : Nat
  mac : MacAddr
  deriving DecidableEq

namespace EgressHop

def typeField : Field := ⟨0, 2⟩

def interfaceField : Field := ⟨3, 12⟩

def macField : Field := ⟨15, 48⟩

def encode (e : EgressHop) : List UInt32 :=
  Fields.encode .egressHop [(typeField, e.type), (interfaceField, e.interface),
    (macField, e.mac.toNat)]

def decode (words : List UInt32) : Option (Option EgressHop) := do
  let type ← typeField.read? words
  let interface ← interfaceField.read? words
  let mac ← macField.read? words
  return some ⟨type, interface, .ofNat mac⟩

end EgressHop

end ControlPlane
