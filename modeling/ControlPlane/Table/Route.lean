import ControlPlane.Ipv4
import ControlPlane.Table.Field

/-! # Entries of the route table

A `RouteEntry` matches a subnet and names what its packets forward to.  Key and mask have the
address above one bit for the address family; the mask also compares the bits above the address.

Only masks that are a run of ones from the top name a subnet: `contiguous? mask` is the length of
that run, and an entry with any other mask decodes as none. -/

namespace ControlPlane

structure RouteEntry where
  subnet : Subnet
  /-- Whether `nextHop` is a group's index, not an egress object's. -/
  toGroup : Bool
  nextHop : Nat
  deriving DecidableEq

namespace RouteEntry

def validBit : Field := .bit 0

def keyField : Field := ⟨2, 44⟩

def maskField : Field := ⟨90, 44⟩

def groupBit : Field := .bit 206

def hopField : Field := ⟨207, 14⟩

/-- The mask bits that every route compares, above the address and below it. -/
def fixedMask : Nat := 0x3ff * 2 ^ 33 + 1

def encode (e : RouteEntry) : List UInt32 :=
  Fields.encode .route [(validBit, 1), (keyField, e.subnet.canon.addr.bits.toNat * 2),
    (maskField, fixedMask + Subnet.maskBits e.subnet.len * 2), (groupBit, e.toGroup.toNat),
    (hopField, e.nextHop)]

/-- The number of ones from the top of a mask down. -/
def leadingOnes (mask : BitVec 32) : Nat := (~~~mask).clz.toNat

theorem leadingOnes_le (mask : BitVec 32) : leadingOnes mask ≤ 32 :=
  BitVec.le_def.mp (BitVec.clz_le (x := ~~~mask))

/-- The number of leading ones of a mask that has nothing but zeros after them.  The zeros are counted from
the mask's other end; a mask without ones has 32 of them. -/
def contiguous? (mask : Nat) : Option { len : Nat // len ≤ 32 } :=
  let bits := BitVec.ofNat 32 mask
  if leadingOnes bits + bits.ctz.toNat < 32 then
    none
  else
    some ⟨leadingOnes bits, leadingOnes_le bits⟩

def decode (words : List UInt32) : Option (Option RouteEntry) := do
  let valid ← validBit.isSet? words
  if valid then
    let mask ← maskField.read? words
    match contiguous? (mask / 2 % 2 ^ 32) with
    | none => return none
    | some len =>
      let key ← keyField.read? words
      let toGroup ← groupBit.isSet? words
      let nextHop ← hopField.read? words
      return some ⟨⟨⟨UInt32.ofNat (key / 2)⟩, len.1, len.2⟩, toGroup, nextHop⟩
  else
    return none

end RouteEntry

end ControlPlane
