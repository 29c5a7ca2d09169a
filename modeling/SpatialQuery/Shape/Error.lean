import SpatialQuery.Shape.Keyword
import SpatialQuery.Shape.Token

/-!
# Why a text is not a shape

The causes for which a text is refused as a shape, and their wording.
-/

namespace SpatialQuery

/-- A cause for which a text is refused as a shape. -/
inductive ShapeError where
  /-- There is no token. -/
  | empty
  /-- The text at the byte offset `offset` is neither a word nor a mark nor a finite number. -/
  | invalidCoordinate (text : Text) (offset : Nat)
  /-- A leading word is not followed by an opening parenthesis. -/
  | missingOpen (word : Text)
  /-- A `d` is not followed by an equals sign and a number. -/
  | missingRadius
  /-- A token stands where it cannot stand. -/
  | unexpected (token : Token)
  /-- The parenthesis after the keyword is never closed. -/
  | missingClose
  /-- A token follows the closing parenthesis. -/
  | trailing (token : Token)
  /-- A rectangle is reversed on some axis. -/
  | reversed
  /-- A radius is below zero. -/
  | negativeRadius
  /-- The numbers between the parentheses do not make the shape that the keyword names. -/
  | wrongCount (keyword : Keyword) (count : Nat)
  /-- A word, given in capitals, is no keyword. -/
  | unknownShape (word : Text)
  /-- Numbers without a keyword make neither a point nor a rectangle. -/
  | wrongBareCount (count : Nat)
deriving DecidableEq

/-- The wording of a cause. -/
def ShapeError.message : ShapeError → Text
  | empty => "empty shape".toList
  | invalidCoordinate text offset =>
    "invalid coordinate '".toList ++ text ++ "' at ".toList ++ Text.ofNat offset
  | missingOpen word => "expected '(' after ".toList ++ word
  | missingRadius => "expected a number after 'd='".toList
  | unexpected token => "unexpected ".toList ++ token.text
  | missingClose => "missing ')'".toList
  | trailing token => "unexpected ".toList ++ token.text ++ " after shape".toList
  | reversed => "envelope minimum exceeds maximum".toList
  | negativeRadius => "circle radius must not be negative".toList
  | wrongCount keyword count =>
    "wrong number of coordinates for ".toList ++ keyword.name ++ ": ".toList ++ Text.ofNat count
  | unknownShape word => "unknown shape: ".toList ++ word
  | wrongBareCount count => "expected 2 or 4 coordinates, got ".toList ++ Text.ofNat count

end SpatialQuery
