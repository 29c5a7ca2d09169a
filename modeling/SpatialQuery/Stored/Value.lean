import SpatialQuery.Number.Binary64
import SpatialQuery.Text.Basic

/-!
# Stored values

A query is stored as a value of a small data format: nothing, flags, numbers, texts, and arrays and
objects of values. The format has no infinities, and nothing that is not a number; where such a
number would stand, nothing is written.

## Implementation notes

No name occurs twice among the fields of an object that is written or handed in. Where one does,
the first field of the name is the one that counts.
-/

namespace SpatialQuery.Stored

/-- A value of the storage format. -/
inductive Value where
  /-- Nothing. -/
  | null
  /-- A flag. -/
  | bool (value : Bool)
  /-- A number. -/
  | number (value : Binary64)
  /-- A text. -/
  | text (value : Text)
  /-- Values in order. -/
  | array (items : List Value)
  /-- Values by name. -/
  | object (fields : List (Text × Value))
deriving Inhabited

/-- The value that a number is stored as. -/
def Value.ofNumber (x : Binary64) : Value := if x.isFinite then number x else null

/-- The value that a number is stored as which may be absent. -/
def Value.ofOptional : Option Binary64 → Value
  | some x => ofNumber x
  | none => null

/-- A value that belongs to a named variant. -/
def Value.ofVariant (name : Text) (content : Value) : Value := object [(name, content)]

end SpatialQuery.Stored
