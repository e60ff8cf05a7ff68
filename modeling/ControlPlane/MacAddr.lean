import ControlPlane.Text.Blank
import ControlPlane.Text.Quoted

/-! # MAC addresses

A MAC address is six octets.  It has a text form, six octets in hexadecimal separated by colons,
and a number form, the octets in base 256 with the first octet highest.  The chip's tables carry
the number form.

`MacAddr.parse` reads the text form and also takes one-digit octets, capitals and surrounding
blanks; `MacAddr.ofNat_toNat` and `MacAddr.toNat_ofNat` tie the number form to the octets. -/

namespace ControlPlane

structure MacAddr where
  o0 : UInt8
  o1 : UInt8
  o2 : UInt8
  o3 : UInt8
  o4 : UInt8
  o5 : UInt8
  deriving DecidableEq, Inhabited

/-- Why a text is no MAC address. -/
inductive MacError where
  /-- There are `found` parts between colons, not six. -/
  | octetCount (found : Nat)
  /-- A part is not one or two hexadecimal digits. -/
  | badOctet (part : String)
  deriving DecidableEq

namespace MacError

def message : MacError → String
  | octetCount found => s!"expected 6 octets, found {found}"
  | badOctet part => "bad octet " ++ Text.quoted part

end MacError

namespace MacAddr

def zero : MacAddr := ⟨0, 0, 0, 0, 0, 0⟩

def broadcast : MacAddr := ⟨0xff, 0xff, 0xff, 0xff, 0xff, 0xff⟩

def octets (m : MacAddr) : List UInt8 := [m.o0, m.o1, m.o2, m.o3, m.o4, m.o5]

/-- The address with the given octets, if there are exactly six. -/
def ofOctets? : List UInt8 → Option MacAddr
  | [o0, o1, o2, o3, o4, o5] => some ⟨o0, o1, o2, o3, o4, o5⟩
  | _ => none

/-- The address with its last octet replaced. -/
def withLastOctet (m : MacAddr) (octet : UInt8) : MacAddr := { m with o5 := octet }

/-! ### The number form -/

/-- The octets in base 256, first octet highest. -/
def toNat (m : MacAddr) : Nat :=
  ((((m.o0.toNat * 256 + m.o1.toNat) * 256 + m.o2.toNat) * 256 + m.o3.toNat) * 256
    + m.o4.toNat) * 256 + m.o5.toNat

/-- The address that the lowest 48 bits of a number spell. -/
def ofNat (n : Nat) : MacAddr where
  o0 := UInt8.ofNat (n / 256 ^ 5)
  o1 := UInt8.ofNat (n / 256 ^ 4)
  o2 := UInt8.ofNat (n / 256 ^ 3)
  o3 := UInt8.ofNat (n / 256 ^ 2)
  o4 := UInt8.ofNat (n / 256)
  o5 := UInt8.ofNat n

theorem toNat_lt (m : MacAddr) : m.toNat < 2 ^ 48 := by
  have h0 := m.o0.toNat_lt
  have h1 := m.o1.toNat_lt
  have h2 := m.o2.toNat_lt
  have h3 := m.o3.toNat_lt
  have h4 := m.o4.toNat_lt
  have h5 := m.o5.toNat_lt
  unfold toNat
  omega

/-- Only the lowest 48 bits of a number count. -/
theorem toNat_ofNat (n : Nat) : (ofNat n).toNat = n % 2 ^ 48 := by
  simp only [toNat, ofNat, UInt8.toNat_ofNat']
  omega

theorem ofNat_toNat (m : MacAddr) : ofNat m.toNat = m := by
  obtain ⟨o0, o1, o2, o3, o4, o5⟩ := m
  have h0 := o0.toNat_lt
  have h1 := o1.toNat_lt
  have h2 := o2.toNat_lt
  have h3 := o3.toNat_lt
  have h4 := o4.toNat_lt
  have h5 := o5.toNat_lt
  simp only [ofNat, toNat, MacAddr.mk.injEq]
  refine ⟨?_, ?_, ?_, ?_, ?_, ?_⟩ <;>
    (apply UInt8.toNat.inj; rw [UInt8.toNat_ofNat']; omega)

/-! ### The text form -/

/-- Six octets of two hexadecimal digits each, separated by colons. -/
def text (m : MacAddr) : String := String.intercalate ":" (m.octets.map Text.hexByte)

/-- The value of one or two hexadecimal digits. -/
def octet? (part : List Char) : Option UInt8 :=
  if part.length ≤ 2 then (Text.unsigned? 16 part).map UInt8.ofNat else none

/-- The octets of all parts, or the first part that is none. -/
def octetsOf : List (List Char) → Except MacError (List UInt8)
  | [] => .ok []
  | part :: parts =>
    match octet? part with
    | none => .error (.badOctet (String.ofList part))
    | some octet =>
      match octetsOf parts with
      | .error e => .error e
      | .ok octets => .ok (octet :: octets)

/-- Reads the text form, ignoring blanks around it. -/
def parse (s : String) : Except MacError MacAddr :=
  let parts := Text.splitAt ':' (Text.trim s.toList)
  if parts.length ≠ 6 then
    .error (.octetCount parts.length)
  else
    match octetsOf parts with
    | .error e => .error e
    | .ok octets =>
      match ofOctets? octets with
      | some m => .ok m
      | none => .error (.octetCount octets.length)

end MacAddr

end ControlPlane
