import ControlPlane.KeyMap
import ControlPlane.Text.Blank
import ControlPlane.Text.Numeral

/-! # IPv4 addresses and subnets

An address is a 32-bit number.  A subnet is an address with a count of leading bits, its length;
`Subnet.mask` gives the address bits that count, and a subnet whose other bits are clear is
*canonical*.  Subnets are ordered by address, then by length. -/

namespace ControlPlane

structure Ipv4 where
  bits : UInt32
  deriving DecidableEq, Inhabited

namespace Ipv4

instance : Key Ipv4 where
  rank a := a.bits.toNat
  rank_inj {a b} h := by
    cases a
    cases b
    simpa using UInt32.toNat.inj h

/-- The four octets, highest first. -/
def octets (a : Ipv4) : List Nat :=
  [a.bits.toNat / 2 ^ 24, a.bits.toNat / 2 ^ 16 % 256, a.bits.toNat / 2 ^ 8 % 256,
    a.bits.toNat % 256]

def ofOctets (o0 o1 o2 o3 : Nat) : Ipv4 :=
  ⟨UInt32.ofNat (((o0 * 256 + o1) * 256 + o2) * 256 + o3)⟩

def text (a : Ipv4) : String := String.intercalate "." (a.octets.map toString)

/-- An octet in decimal, without leading zeros. -/
def octet? (cs : List Char) : Option Nat :=
  if cs.length > 1 ∧ cs.head? = some '0' then
    none
  else if cs.length > 3 then
    none
  else
    (Text.unsigned? 10 cs).filter (· < 256)

/-- Four octets in decimal, separated by dots. -/
def parse? (s : String) : Option Ipv4 :=
  match (Text.splitAt '.' s.toList).map octet? with
  | [some o0, some o1, some o2, some o3] => some (ofOctets o0 o1 o2 o3)
  | _ => none

end Ipv4

/-- An address and the number of its leading bits that count. -/
structure Subnet where
  addr : Ipv4
  len : Nat
  len_le : len ≤ 32
  deriving DecidableEq

namespace Subnet

instance : Inhabited Subnet := ⟨⟨default, 0, by decide⟩⟩

instance : Key Subnet where
  rank s := s.addr.bits.toNat * 64 + s.len
  rank_inj {a b} h := by
    obtain ⟨⟨x⟩, l, hl⟩ := a
    obtain ⟨⟨y⟩, m, hm⟩ := b
    have hx : x.toNat = y.toNat := by
      simp only at h
      omega
    have hlm : l = m := by
      simp only at h
      omega
    have hxy : x = y := UInt32.toNat.inj hx
    subst hxy hlm
    rfl

/-- The mask of a length: that many ones from the top, then zeros.  Lengths above 32 count as
32. -/
def maskBits (len : Nat) : Nat := 2 ^ 32 - 2 ^ (32 - min len 32)

def mask (len : Nat) : UInt32 := UInt32.ofNat (maskBits len)

/-- The subnet of `addr` with `len` leading bits and all other bits cleared. -/
def canonical (addr : Ipv4) (len : Nat) (h : len ≤ 32) : Subnet :=
  ⟨⟨addr.bits &&& mask len⟩, len, h⟩

/-- The same subnet with its host bits cleared. -/
def canon (s : Subnet) : Subnet := canonical s.addr s.len s.len_le

/-- The subnet of a single address. -/
def host (addr : Ipv4) : Subnet := ⟨addr, 32, by decide⟩

def text (s : Subnet) : String := s.addr.text ++ "/" ++ toString s.len

/-- Reads an address and a length with a slash between them, host bits and all. -/
def parse? (s : String) : Option Subnet :=
  match Text.splitAt '/' s.toList with
  | [addr, len] =>
    match Ipv4.parse? (String.ofList addr), Text.numeral? 10 256 len with
    | some addr, some len => if h : len ≤ 32 then some ⟨addr, len, h⟩ else none
    | _, _ => none
  | _ => none

end Subnet

end ControlPlane
