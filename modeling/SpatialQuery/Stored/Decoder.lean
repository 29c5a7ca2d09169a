import SpatialQuery.Stored.Value

/-!
# Decoding stored values

What is made of named fields can be stored as an object or as an array. In an object the fields
that are known are decoded in the order of their names, and after that the first one is reported
that is needed and missing, in the order of declaration; other fields are ignored. An array holds
the fields in the order of declaration, all of them and nothing else.

A variant is stored as its name, or as an object whose only field has that name.
-/

namespace SpatialQuery.Stored

/-- A cause for which a stored value is refused. -/
inductive DecodeError where
  /-- An object lacks a field. -/
  | missingField (name : Text)
  /-- There is no variant of that name. -/
  | unknownVariant
  /-- A value is of another kind than the one that is needed. -/
  | invalidType
  /-- An object that stands for a variant has not exactly one field. -/
  | invalidValue
  /-- An array has too few or too many items. -/
  | invalidLength
deriving DecidableEq

/-- The wording of a cause. -/
def DecodeError.message : DecodeError → Text
  | missingField name => "missing field `".toList ++ name ++ ['\x60']
  | unknownVariant => "unknown variant".toList
  | invalidType => "invalid type".toList
  | invalidValue => "invalid value".toList
  | invalidLength => "invalid length".toList

/-- A decoder takes a stored value for a value of type `α`. -/
abbrev Decoder (α : Type) := Value → Except DecodeError α

namespace Decoder

variable {α : Type}

/-- A number. -/
def number : Decoder Binary64
  | .number x => .ok x
  | _ => .error .invalidType

/-- A flag. -/
def bool : Decoder Bool
  | .bool b => .ok b
  | _ => .error .invalidType

/-- A value or nothing. -/
def optional (decode : Decoder α) : Decoder (Option α)
  | .null => .ok none
  | v => (decode v).map some

/-- The field of a name, if an object has it. -/
def field? (decode : Decoder α) (fields : List (Text × Value)) (name : Text) :
    Except DecodeError (Option α) :=
  match fields.lookup name with
  | none => .ok none
  | some v => (decode v).map some

/-- What was decoded for a field that cannot be missing. -/
def require (name : Text) : Option α → Except DecodeError α
  | some a => .ok a
  | none => .error (.missingField name)

/-- The next item of an array, and the items after it. -/
def next (decode : Decoder α) : List Value → Except DecodeError (α × List Value)
  | [] => .error .invalidLength
  | v :: rest => (decode v).map fun a => (a, rest)

/-- An array has no further items. -/
def finish : List Value → Except DecodeError Unit
  | [] => .ok ()
  | _ :: _ => .error .invalidLength

/-- What is made of named fields, as an object or as an array. -/
def fieldsOrItems (ofFields : List (Text × Value) → Except DecodeError α)
    (ofItems : List Value → Except DecodeError α) : Decoder α
  | .object fields => ofFields fields
  | .array items => ofItems items
  | _ => .error .invalidType

/-- The name of a variant, and its content if it has one. -/
def variant : Decoder (Text × Option Value)
  | .text name => .ok (name, none)
  | .object [(name, content)] => .ok (name, some content)
  | .object _ => .error .invalidValue
  | _ => .error .invalidType

end Decoder

end SpatialQuery.Stored
