/-! # Decimals of floating-point numbers

`shortestDecimal` writes a finite number as a decimal: of the decimals that are read back as the
same number, one with the fewest places after the point. -/

namespace ControlPlane.Text

/-- The magnitude of a finite number as a whole number of units of `2 ^ -1075`. -/
def halfUnits (x : Float) : Nat :=
  let bits := x.toBits.toNat
  let fraction := bits % 2 ^ 52
  match bits / 2 ^ 52 % 2 ^ 11 with
  | 0 => 2 * fraction
  | e + 1 => (2 ^ 52 + fraction) * 2 ^ (e + 1)

/-- The decimal with a number of places that is nearest to `units` units of `2 ^ -1075`. -/
def roundedAt (units places : Nat) : Nat := (units * 10 ^ places + 2 ^ 1074) / 2 ^ 1075

/-- The first number of places, from `places` on, at which the rounded decimal is read back. -/
def placesFrom (x : Float) (places : Nat) : Nat → Nat
  | 0 => places
  | fuel + 1 =>
    if Float.ofScientific (roundedAt (halfUnits x) places) true places == x.abs then places
    else placesFrom x (places + 1) fuel

/-- A number `n` and a count of places, so that `n / 10 ^ places` is read back as `x`. -/
def shortestDecimal (x : Float) : Int × Nat :=
  let places := placesFrom x 0 1075
  let n := roundedAt (halfUnits x) places
  (if x < 0 then -(n : Int) else n, places)

end ControlPlane.Text
