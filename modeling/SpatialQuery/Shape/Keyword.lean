import SpatialQuery.Text.Basic

/-!
# Keywords of shapes

A shape can be named by a keyword in any case. A rectangle has two keywords.
-/

namespace SpatialQuery

/-- A word that names a kind of shape. -/
inductive Keyword where
  /-- A point. -/
  | point
  /-- A rectangle. -/
  | envelope
  /-- A rectangle, by its short name. -/
  | rect
  /-- A circle. -/
  | circle
deriving DecidableEq

namespace Keyword

/-- Every keyword. -/
def all : List Keyword := [point, envelope, rect, circle]

/-- A keyword in capitals. -/
def name : Keyword → Text
  | point => "POINT".toList
  | envelope => "ENVELOPE".toList
  | rect => "RECT".toList
  | circle => "CIRCLE".toList

/-- The keyword that a word is, up to the case of ASCII letters. -/
def ofWord? (word : Text) : Option Keyword := all.find? fun keyword => keyword.name == word.upper

end Keyword

end SpatialQuery
