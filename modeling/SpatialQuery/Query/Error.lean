import SpatialQuery.Number.Literal

/-!
# Why a text is not a query

The causes for which a text is refused as a query, and their wording. A reader of geometries has
causes of its own, which are kept as they are.
-/

namespace SpatialQuery

/-- A bound on the distance of matches. -/
inductive Bound where
  /-- The least distance. -/
  | min
  /-- The greatest distance. -/
  | max
deriving DecidableEq

/-- The key of the modifier that sets a bound. -/
def Bound.key : Bound → Text
  | min => "min".toList
  | max => "max".toList

/-- A cause for which a text is refused as a query; `ε` holds the causes of the reader of
geometries. -/
inductive ParseError (ε : Type) where
  /-- The text has no operation followed by a shape in parentheses. -/
  | malformed (query : Text)
  /-- There is no operation of that name. -/
  | unknownOperation (name : Text)
  /-- There is nothing but blanks between the parentheses. -/
  | missingBody (query : Text)
  /-- The text between the parentheses is no shape. -/
  | invalidShape (cause : ε)
  /-- The value of a bound is no number. -/
  | invalidNumber (bound : Bound) (value : Text) (cause : LiteralError)
  /-- Some keys are not keys of any modifier. -/
  | unknownParameters (keys : List Text)
deriving DecidableEq

/-- The wording of a cause, given the wording of the causes of the reader of geometries. -/
def ParseError.message {ε : Type} (wording : ε → Text) : ParseError ε → Text
  | malformed query => "missing parens: ".toList ++ query
  | unknownOperation name => "unknown operation: ".toList ++ name
  | missingBody query => "missing body: ".toList ++ query
  | invalidShape cause => "invalid shape: ".toList ++ wording cause
  | invalidNumber bound value _ =>
    "invalid number for ".toList ++ bound.key ++ ": ".toList ++ value
  | unknownParameters keys => "unused parameters: ".toList ++ ", ".toList.intercalate keys

end SpatialQuery
