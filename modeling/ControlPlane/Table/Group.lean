import ControlPlane.Table.Field

/-! # Entries of the multipath tables

A group is a descriptor and a span of members, one egress object each.  A group of up to eight
members also lists them in the descriptor, if each fits into thirteen bits, and the chip then
forwards by that list; otherwise a bit of the descriptor sends it to the span.

A descriptor with a count of zero is no group. -/

namespace ControlPlane

/-- The index of an egress object in a member's place. -/
structure MemberEntry where
  nextHop : Nat
  deriving DecidableEq

namespace MemberEntry

def hopField : Field := ⟨0, 14⟩

def encode (e : MemberEntry) : List UInt32 := Fields.encode .member [(hopField, e.nextHop)]

def decode (words : List UInt32) : Option (Option MemberEntry) := do
  let nextHop ← hopField.read? words
  return some ⟨nextHop⟩

end MemberEntry

structure GroupEntry where
  /-- The first place of the members' span. -/
  base : Nat
  count : Nat
  /-- The members listed in the descriptor; none if the chip walks the span. -/
  listed : List Nat
  deriving DecidableEq

namespace GroupEntry

def countField : Field := ⟨0, 10⟩

def baseField : Field := ⟨10, 12⟩

/-- Sends the chip to the span of members. -/
def walkBit : Field := .bit 196

/-- Marks listed member `i` as something else than an egress object. -/
def kindBit (i : Nat) : Field := .bit (81 + 14 * i)

/-- The place of listed member `i`. -/
def listedField (i : Nat) : Field := ⟨82 + 14 * i, 13⟩

/-- The number of members that a descriptor can list. -/
def listedMax : Nat := 8

/-- The largest member that a descriptor can list. -/
def listedMemberMax : Nat := 2 ^ 13 - 1

/-- The descriptor of a group with the given span. -/
def ofMembers (base : Nat) (members : List Nat) : GroupEntry where
  base := base
  count := members.length
  listed :=
    if members.length ≤ listedMax ∧ ∀ m ∈ members, m ≤ listedMemberMax then members else []

/-- The fields of listed members, the first of them in place `i`. -/
def listedFields (i : Nat) : List Nat → List (Field × Nat)
  | [] => []
  | m :: ms => (kindBit i, 0) :: (listedField i, m) :: listedFields (i + 1) ms

def encode (e : GroupEntry) : List UInt32 :=
  Fields.encode .group ((countField, e.count) :: (baseField, e.base)
    :: (walkBit, e.listed.isEmpty.toNat) :: listedFields 0 (e.listed.take listedMax))

/-- The first `count` listed members. -/
def listed? (words : List UInt32) (count : Nat) : Option (List Nat) :=
  (List.range count).mapM fun i => (listedField i).read? words

def decode (words : List UInt32) : Option (Option GroupEntry) := do
  let count ← countField.read? words
  if count = 0 then
    return none
  else
    let walk ← walkBit.isSet? words
    let listed ← if walk then some [] else listed? words count
    let base ← baseField.read? words
    return some ⟨base, count, listed⟩

end GroupEntry

end ControlPlane
