/-!
# Classes of characters as ranges

A property of the Unicode standard is given by the ascending list of the ranges of code points
that have it, both ends included.
-/

namespace SpatialQuery.Text

/-- A class of code points as the ascending list of its ranges, both ends included. -/
abbrev Ranges := List (Nat × Nat)

/-- Looks a code point up; the search ends at the first range that lies above it. -/
def Ranges.contains : Ranges → Nat → Bool
  | [], _ => false
  | (low, high) :: rest, n => !(n < low) && (n ≤ high || contains rest n)

end SpatialQuery.Text
