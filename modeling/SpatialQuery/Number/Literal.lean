import SpatialQuery.Number.Decimal

/-!
# Number literals

A literal is an optional sign and either one of the words `inf`, `infinity` and `nan` in any case,
or decimal digits with an optional point and an optional exponent, with a digit on at least one
side of the point and at least one in the exponent. Its value is the nearest number, a half going
to the even neighbour; past the greatest magnitude it is an infinity.
-/

namespace SpatialQuery

/-- Why a text is not a number literal. -/
inductive LiteralError where
  /-- There is no text. -/
  | empty
  /-- The text does not follow the grammar of literals. -/
  | malformed
deriving DecidableEq

/-- The wording of the reason. -/
def LiteralError.message : LiteralError → Text
  | empty => "cannot parse float from empty string".toList
  | malformed => "invalid float literal".toList

namespace Literal

/-- The value of a decimal digit. -/
def digit? (c : Char) : Option Nat :=
  if c.isDigit then some (c.toNat - '0'.toNat) else none

/-- A text of digits is appended to a number; the empty text leaves it alone. -/
def appendDigits? : (n : Nat) → Text → Option Nat
  | n, [] => some n
  | n, c :: rest =>
    match digit? c with
    | some d => appendDigits? (10 * n + d) rest
    | none => none

/-- The value of a text of decimal digits, at least one. -/
def natural? (t : Text) : Option Nat := if t.isEmpty then none else appendDigits? 0 t

/-- Takes the sign off a text; the answer tells whether it was a minus. -/
def signed : Text → Bool × Text
  | '-' :: rest => (true, rest)
  | '+' :: rest => (false, rest)
  | t => (false, t)

/-- The value of the text of an exponent. -/
def exponent? (t : Text) : Option Int :=
  let (negative, digits) := signed t
  (natural? digits).map fun n => if negative then -n else n

/-- The digits of both sides of the point as one number, and how many stand after it. -/
def significand? (t : Text) : Option FixedPoint :=
  let (whole, fraction) := (t.cutFirst '.').getD (t, [])
  if whole.isEmpty && fraction.isEmpty then none
  else (appendDigits? 0 (whole ++ fraction)).map fun digits => ⟨digits, fraction.length⟩

/-- The letters that introduce an exponent. -/
def isExponentMark (c : Char) : Bool := c == 'e' || c == 'E'

/-- The number that a text without a sign writes in decimal digits. -/
def decimal? (t : Text) : Option Decimal := do
  let point ← significand? (t.takeWhile (!isExponentMark ·))
  match t.dropWhile (!isExponentMark ·) with
  | [] => return point.toDecimal
  | _ :: power =>
    let exponent ← exponent? power
    return ⟨point.digits, exponent - point.places⟩

/-- The number that a text without a sign writes as a word. -/
def word? (negative : Bool) (t : Text) : Option Binary64 :=
  if t.agreesUpToCase "inf".toList || t.agreesUpToCase "infinity".toList then
    some (.infinite negative)
  else if t.agreesUpToCase "nan".toList then some .nan
  else none

end Literal

/-- Reads a number literal. -/
def Binary64.read (t : Text) : Except LiteralError Binary64 :=
  if t.isEmpty then .error .empty
  else
    let (negative, unsigned) := Literal.signed t
    match Literal.decimal? unsigned with
    | some d => .ok (.ofRank negative d.rank)
    | none =>
      match Literal.word? negative unsigned with
      | some x => .ok x
      | none => .error .malformed

end SpatialQuery
