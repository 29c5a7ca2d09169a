import SpatialQuery.Number.Literal

/-!
# The shortest text of a number

A finite number is written in positional form with the fewest digits that are read back as the
same number, and of the texts with so few digits the one nearest to the number is taken. Nothing is
added to a whole number, and a zero keeps its sign.

## Implementation notes

The digits are searched on the decimal grids with one to seventeen digits. On each grid the two
neighbours of the number are tried, the nearer one first and the upper one first when both are
equally near, and the first of all that reads back is taken. All digits of the number, which
always read back, end the search.
-/

namespace SpatialQuery

namespace Binary64

/-- The power of ten of the first digit of a magnitude. From one on, the digits of the whole part
tell it; below one, the digits of the greatest whole number below the reciprocal do. -/
def leadingExponent (units : Nat) : Int :=
  if unitsPerOne ≤ units then (Text.ofNat (units / unitsPerOne)).length - 1
  else -(Text.ofNat ((unitsPerOne - 1) / units)).length

/-- A magnitude as a ratio to a power of ten. -/
def ratioTo (units : Nat) : (exponent : Int) → Nat × Nat
  | .ofNat zeros => (units, unitsPerOne * 10 ^ zeros)
  | .negSucc n => (units * 10 ^ (n + 1), unitsPerOne)

/-- The neighbours of a magnitude among the multiples of a power of ten, the nearer one first and
of two that are equally near the upper one. -/
def neighbours (units : Nat) (exponent : Int) : List FixedPoint :=
  let (numerator, denominator) := ratioTo units exponent
  let below := numerator / denominator
  let lower := FixedPoint.scaled below exponent
  let upper := FixedPoint.scaled (below + 1) exponent
  if 2 * (numerator % denominator) < denominator then [lower, upper] else [upper, lower]

/-- All digits of a magnitude. -/
def allDigits (units : Nat) : FixedPoint := ⟨units * 5 ^ unitPlaces, unitPlaces⟩

/-- A decimal number reads back as a rank when its nearest magnitude has that rank. -/
def readsBack (rank : Nat) (x : FixedPoint) : Bool := x.toDecimal.rank == rank

/-- The decimal number with the fewest digits, and nearest to the magnitude among those, that reads
back as the rank. -/
def shortest (rank : Nat) : FixedPoint :=
  let exponent := leadingExponent (units rank)
  ((List.range 17).findSome? fun (further : Nat) =>
    (neighbours (units rank) (exponent - further)).find? (readsBack rank)).getD
      (allDigits (units rank))

/-- The sign of a negative number. -/
def signText (negative : Bool) : Text := if negative then ['-'] else []

/-- The text of a number. -/
def text : Binary64 → Text
  | nan => "NaN".toList
  | infinite negative => signText negative ++ "inf".toList
  | finite negative rank => signText negative ++ (shortest rank).positional

end Binary64

end SpatialQuery
