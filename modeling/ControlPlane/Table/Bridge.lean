import ControlPlane.MacAddr
import ControlPlane.Table.Field

/-! # Entries of the address tables

A `StationEntry` says behind which port a MAC address is found on a VLAN.  The table is a hash
table: `StationEntry.home` is the slot that a key is looked for first.

A `TrapEntry` matches frames by MAC address and VLAN under a mask, ahead of the hash table.  Key
and mask have the address in their lowest 48 bits, the VLAN above it, and one bit for the key's
type on top.

Decoders answer `some none` for an entry that is not valid. -/

namespace ControlPlane

structure StationEntry where
  mac : MacAddr
  vlan : Nat
  port : Nat
  module : Nat
  static : Bool
  deriving DecidableEq

namespace StationEntry

def validBit : Field := .bit 0

def keyField : Field := ⟨1, 3⟩

def vlanField : Field := ⟨4, 12⟩

def macField : Field := ⟨16, 48⟩

def portField : Field := ⟨64, 7⟩

def moduleField : Field := ⟨71, 8⟩

def staticBit : Field := .bit 93

/-- The type of bridged keys. -/
def bridgedKey : Nat := 0

def encode (e : StationEntry) : List UInt32 :=
  Fields.encode .station [(validBit, 1), (keyField, bridgedKey), (vlanField, e.vlan),
    (macField, e.mac.toNat), (portField, e.port), (moduleField, e.module),
    (staticBit, e.static.toNat)]

def decode (words : List UInt32) : Option (Option StationEntry) := do
  let valid ← validBit.isSet? words
  if valid then
    let mac ← macField.read? words
    let vlan ← vlanField.read? words
    let port ← portField.read? words
    let module ← moduleField.read? words
    let static ← staticBit.isSet? words
    return some ⟨.ofNat mac, vlan, port, module, static⟩
  else
    return none

/-- The slot where a key is looked for first: its number form, cut to the table's depth. -/
def home (mac : MacAddr) (vlan : Nat) : Nat :=
  (mac.toNat * 2 ^ 16 + vlan % 2 ^ 12 * 2 ^ 4 + bridgedKey * 2) % Table.station.depth

theorem home_lt (mac : MacAddr) (vlan : Nat) : home mac vlan < Table.station.depth :=
  Nat.mod_lt _ (by decide)

end StationEntry

structure TrapEntry where
  mac : MacAddr
  vlan : Nat
  mask : Nat
  port : Nat
  toCpu : Bool
  bpdu : Bool
  deriving DecidableEq

namespace TrapEntry

def validBit : Field := .bit 0

def keyField : Field := ⟨1, 61⟩

def maskField : Field := ⟨62, 61⟩

def portField : Field := ⟨123, 7⟩

def cpuBit : Field := .bit 130

def bpduBit : Field := .bit 131

/-- The mask that compares the key's type and the whole address, on any VLAN. -/
def addressMask : Nat := 0x1000ffffffffffff

/-- What frames are compared with. -/
def key (e : TrapEntry) : Nat := e.vlan % 2 ^ 12 * 2 ^ 48 + e.mac.toNat

def encode (e : TrapEntry) : List UInt32 :=
  Fields.encode .trap [(validBit, 1), (keyField, e.key), (maskField, e.mask),
    (portField, e.port), (cpuBit, e.toCpu.toNat), (bpduBit, e.bpdu.toNat)]

def decode (words : List UInt32) : Option (Option TrapEntry) := do
  let valid ← validBit.isSet? words
  if valid then
    let key ← keyField.read? words
    let mask ← maskField.read? words
    let port ← portField.read? words
    let toCpu ← cpuBit.isSet? words
    let bpdu ← bpduBit.isSet? words
    return some ⟨.ofNat key, key / 2 ^ 48 % 2 ^ 12, mask, port, toCpu, bpdu⟩
  else
    return none

end TrapEntry

end ControlPlane
