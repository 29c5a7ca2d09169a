import SpatialQuery.Number.Shortest

/-!
# Tokens of a shape

The text of a shape is made of words, finite numbers and four marks.
-/

namespace SpatialQuery

/-- A token of the text of a shape. -/
inductive Token where
  /-- A word, which starts with a letter. -/
  | word (word : Text)
  /-- A finite number. -/
  | number (value : Binary64)
  /-- The mark `(`. -/
  | openParen
  /-- The mark `)`. -/
  | closeParen
  /-- The mark `,`. -/
  | comma
  /-- The mark `=`. -/
  | equals
deriving DecidableEq

/-- A token as a message shows it. -/
def Token.text : Token → Text
  | word w => '\'' :: w ++ ['\'']
  | number x => "number ".toList ++ x.text
  | openParen => "'('".toList
  | closeParen => "')'".toList
  | comma => "','".toList
  | equals => "'='".toList

end SpatialQuery
