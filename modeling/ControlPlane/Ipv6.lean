import ControlPlane.Ipv4

/-! # IPv6 addresses

An address is eight groups of sixteen bits.  Routes are IPv4 only, so these addresses are read
and shown, and never programmed.

The text form writes each group in hexadecimal without leading zeros.  The longest run of two or
more zero groups, the first of them if several are equally long, becomes `::`; and an address that
embeds an IPv4 address after `::ffff:` shows it with dots. -/

namespace ControlPlane

/-- The groups, highest first. -/
structure Ipv6 where
  groups : List Nat
  deriving DecidableEq, Inhabited

/-- An address of either version. -/
inductive IpAddress where
  | v4 (addr : Ipv4)
  | v6 (addr : Ipv6)
  deriving DecidableEq

namespace Ipv6

def groupCount : Nat := 8

/-! ### Reading -/

/-- One to four hexadecimal digits. -/
def group? (cs : List Char) : Option Nat :=
  if cs.length ≤ 4 then Text.unsigned? 16 cs else none

/-- The groups of a list of parts; the last part may be an IPv4 address, which is two groups. -/
def groups? : List (List Char) → Option (List Nat)
  | [] => some []
  | [part] =>
    match group? part with
    | some g => some [g]
    | none =>
      (Ipv4.parse? (String.ofList part)).map fun a =>
        [a.bits.toNat / 65536, a.bits.toNat % 65536]
  | part :: parts => do
    let g ← group? part
    let gs ← groups? parts
    return g :: gs

/-- The parts of a text between colons; an empty text has none. -/
def parts (cs : List Char) : List (List Char) :=
  if cs.isEmpty then [] else Text.splitAt ':' cs

/-- Cuts a text at its first `::`. -/
def cutDouble : List Char → Option (List Char × List Char)
  | ':' :: ':' :: rest => some ([], rest)
  | c :: cs => (cutDouble cs).map fun (before, after) => (c :: before, after)
  | [] => none

/-- Reads the text form; a `::` stands for one group of zeros or more. -/
def parse? (s : String) : Option Ipv6 := do
  match cutDouble s.toList with
  | none =>
    let gs ← groups? (parts s.toList)
    if gs.length = groupCount then return ⟨gs⟩ else none
  | some (before, after) =>
    let front ← groups? (parts before)
    if before.contains '.' then none
    let back ← groups? (parts after)
    let found := front.length + back.length
    if found < groupCount then
      return ⟨front ++ List.replicate (groupCount - found) 0 ++ back⟩
    else
      none

/-! ### Writing -/

/-- The number of zeros that a list begins with. -/
def zerosAhead (gs : List Nat) : Nat := (gs.takeWhile (· == 0)).length

/-- The start and length of the longest run of zeros, the first of equally long ones. -/
def longestZeros (gs : List Nat) : Nat × Nat :=
  (List.range gs.length).foldl
    (fun best start =>
      let run := zerosAhead (gs.drop start)
      if best.2 < run then (start, run) else best)
    (0, 0)

def groupsText (gs : List Nat) : String := String.intercalate ":" (gs.map Text.hexDigits)

def text (a : Ipv6) : String :=
  match a.groups with
  | [0, 0, 0, 0, 0, 0xffff, hi, lo] => "::ffff:" ++ (Ipv4.mk (UInt32.ofNat (hi * 65536 + lo))).text
  | gs =>
    let (start, run) := longestZeros gs
    if run < 2 then
      groupsText gs
    else
      groupsText (gs.take start) ++ "::" ++ groupsText (gs.drop (start + run))

end Ipv6

namespace IpAddress

/-- Reads an address of either version. -/
def parse? (s : String) : Option IpAddress :=
  match Ipv4.parse? s with
  | some a => some (.v4 a)
  | none => (Ipv6.parse? s).map .v6

end IpAddress

end ControlPlane
