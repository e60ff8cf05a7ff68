/-! # Numerals

Reading and writing of whole numbers.  A numeral is a non-empty run of digits, with an optional
plus sign in front; `numeral?` reads one whose value stays below a limit.  Hexadecimal digits come
in both cases, and are written small.  Bytes are written as two of them each. -/

namespace ControlPlane.Text

/-- The value of a digit in the given base (at most 16), or `none` for any other character. -/
def digit? (base : Nat) (c : Char) : Option Nat :=
  let n := c.toNat
  let value :=
    if 0x30 ≤ n ∧ n ≤ 0x39 then some (n - 0x30)
    else if 0x41 ≤ n ∧ n ≤ 0x46 then some (n - 0x41 + 10)
    else if 0x61 ≤ n ∧ n ≤ 0x66 then some (n - 0x61 + 10)
    else none
  value.filter (· < base)

/-- The value of a list of digits, most significant first, continuing from `acc`. -/
def digits? (base : Nat) : Nat → List Char → Option Nat
  | acc, [] => some acc
  | acc, c :: cs => (digit? base c).bind fun d => digits? base (acc * base + d) cs

/-- The value of a non-empty run of digits. -/
def unsigned? (base : Nat) : List Char → Option Nat
  | [] => none
  | c :: cs => digits? base 0 (c :: cs)

/-- The value below `limit` of a numeral with an optional plus sign. -/
def numeral? (base limit : Nat) (cs : List Char) : Option Nat :=
  let unsignedPart :=
    match cs with
    | '+' :: rest => rest
    | _ => cs
  (unsigned? base unsignedPart).filter (· < limit)

/-- Whether `c` is one of the ten ASCII digits. -/
def isDecimal (c : Char) : Bool := (digit? 10 c).isSome

/-- The digits of `n` in base 16, small letters, without a mark in front. -/
def hexDigits (n : Nat) : String := String.ofList (Nat.toDigits 16 n)

/-- `n` in base 16, marked by `0x`. -/
def hex (n : Nat) : String := "0x" ++ hexDigits n

/-- A byte as two hexadecimal digits. -/
def hexByte (b : UInt8) : String :=
  String.ofList [Nat.digitChar (b.toNat / 16), Nat.digitChar (b.toNat % 16)]

def hexBytes (bytes : List UInt8) : String := String.join (bytes.map hexByte)

/-- The bytes that pairs of hexadecimal digits spell. -/
def bytesOfHex? : List Char → Option (List UInt8)
  | [] => some []
  | high :: low :: rest => do
    let byte ← unsigned? 16 [high, low]
    let bytes ← bytesOfHex? rest
    return UInt8.ofNat byte :: bytes
  | [_] => none

end ControlPlane.Text
