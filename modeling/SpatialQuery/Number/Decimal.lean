import SpatialQuery.Number.Rounding
import SpatialQuery.Text.Basic

/-!
# Decimal numbers

A decimal number is a whole coefficient and a power of ten. It has a nearest magnitude, and with no
positive power it has a positional form: the digits with a point among them and no exponent.
-/

namespace SpatialQuery

/-- The number `coefficient * 10 ^ exponent`. -/
structure Decimal where
  /-- The digits without point and leading zeros, read as a whole number. -/
  coefficient : Nat
  /-- The power of ten. -/
  exponent : Int
deriving DecidableEq

/-- The smallest positive magnitude is one half to this power, and has as many decimal places. -/
def unitPlaces : Nat := 1074

/-- The number of units of the smallest positive magnitude in one. -/
def unitsPerOne : Nat := 2 ^ unitPlaces

/-- The rank of the magnitude nearest to a decimal number.

Two bounds spare the work with huge powers: from `10 ^ 401` on all magnitudes are passed, and a
number below `2 ^ (log2 coefficient + 1) / 8 ^ places` that is not half a unit is nothing. -/
def Decimal.rank (d : Decimal) : Nat :=
  match d.exponent with
  | .ofNat zeros =>
    if d.coefficient = 0 then 0
    else if 400 < zeros then magnitudeCount
    else rankOfRatio (d.coefficient * 10 ^ zeros * unitsPerOne) 1
  | .negSucc n =>
    if d.coefficient.log2 + 1100 < 3 * (n + 1) then 0
    else rankOfRatio (d.coefficient * unitsPerOne) (10 ^ (n + 1))

/-- The number `digits / 10 ^ places`. -/
structure FixedPoint where
  /-- All digits, read as a whole number. -/
  digits : Nat
  /-- How many of the digits stand after the point. -/
  places : Nat
deriving DecidableEq

namespace FixedPoint

/-- A number with a point as a decimal number. -/
def toDecimal (x : FixedPoint) : Decimal := ⟨x.digits, -x.places⟩

/-- Drops the zeros at the end of the places. -/
def reduced (digits : Nat) : (places : Nat) → FixedPoint
  | 0 => ⟨digits, 0⟩
  | places + 1 =>
    if digits % 10 = 0 then reduced (digits / 10) places else ⟨digits, places + 1⟩

/-- The number `digits * 10 ^ exponent` with as few places as it can be written with. -/
def scaled (digits : Nat) : (exponent : Int) → FixedPoint
  | .ofNat zeros => ⟨digits * 10 ^ zeros, 0⟩
  | .negSucc n => reduced digits (n + 1)

/-- Puts zeros in front of a text up to a width. -/
def padded (width : Nat) (t : Text) : Text := List.replicate (width - t.length) '0' ++ t

/-- The positional form: the whole part, and the places after a point if there are any. -/
def positional (x : FixedPoint) : Text :=
  let whole := Text.ofNat (x.digits / 10 ^ x.places)
  if x.places = 0 then whole
  else whole ++ '.' :: padded x.places (Text.ofNat (x.digits % 10 ^ x.places))

end FixedPoint

end SpatialQuery
