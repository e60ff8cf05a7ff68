import ControlPlane.Table.Field

/-! # Entries of the VLAN tables

A VLAN has an entry for traffic on its way in and one for traffic on its way out, at the VLAN's
number.  Sets of ports are bitmaps of 66 bits: bit 0 is the processor and bit `n` is port `n`. -/

namespace ControlPlane

/-- The width of a set of ports. -/
def portMapBits : Nat := 66

/-- The spanning tree group of every VLAN. -/
def spanningTreeGroup : Nat := 2

/-- The bitmap with a port's bit alone. -/
def portBit (port : Nat) : Nat := 2 ^ port

/-- The bitmap with a port's bit alone, if a number of 128 bits has that bit. -/
def portBit? (port : Nat) : Option Nat := if port < 128 then some (portBit port) else none

structure VlanEntry where
  ports : Nat
  ingressPorts : Nat
  group : Nat
  profile : Nat
  deriving DecidableEq

namespace VlanEntry

def portsField : Field := ⟨0, portMapBits⟩

def ingressPortsField : Field := ⟨66, portMapBits⟩

def groupField : Field := ⟨132, 9⟩

def validBit : Field := .bit 205

def profileField : Field := ⟨232, 7⟩

def encode (e : VlanEntry) : List UInt32 :=
  Fields.encode .vlan [(portsField, e.ports), (ingressPortsField, e.ingressPorts),
    (groupField, e.group), (validBit, 1), (profileField, e.profile)]

def decode (words : List UInt32) : Option (Option VlanEntry) := do
  let valid ← validBit.isSet? words
  if valid then
    let ports ← portsField.read? words
    let ingressPorts ← ingressPortsField.read? words
    let group ← groupField.read? words
    let profile ← profileField.read? words
    return some ⟨ports, ingressPorts, group, profile⟩
  else
    return none

end VlanEntry

structure EgressVlanEntry where
  group : Nat
  untagged : Nat
  ports : Nat
  deriving DecidableEq

namespace EgressVlanEntry

def validBit : Field := .bit 0

def groupField : Field := ⟨1, 9⟩

def untaggedField : Field := ⟨96, portMapBits⟩

def portsField : Field := ⟨162, portMapBits⟩

def encode (e : EgressVlanEntry) : List UInt32 :=
  Fields.encode .egressVlan [(validBit, 1), (groupField, e.group), (untaggedField, e.untagged),
    (portsField, e.ports)]

def decode (words : List UInt32) : Option (Option EgressVlanEntry) := do
  let valid ← validBit.isSet? words
  if valid then
    let group ← groupField.read? words
    let untagged ← untaggedField.read? words
    let ports ← portsField.read? words
    return some ⟨group, untagged, ports⟩
  else
    return none

end EgressVlanEntry

end ControlPlane
