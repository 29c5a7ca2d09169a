import SpatialQuery.Operation
import SpatialQuery.Query.Error
import SpatialQuery.Text.Blank

/-!
# The parts of a query

A query is written as the name of an operation, a shape in parentheses, and modifiers. The shape
is all that stands between the first opening and the last closing parenthesis, whatever it is, so
a shape can have parentheses of its own.
-/

namespace SpatialQuery

/-- The three texts that a query falls into. -/
structure Parts where
  /-- The text before the first opening parenthesis. -/
  name : Text
  /-- The text between the parentheses. -/
  body : Text
  /-- The text after the last closing parenthesis. -/
  tail : Text
deriving DecidableEq

/-- Cuts a query at its first opening and its last closing parenthesis, which has to come later. -/
def Parts.ofText? (query : Text) : Option Parts := do
  let (name, rest) ← query.cutFirst '('
  let (body, tail) ← rest.cutLast ')'
  return ⟨name, body, tail⟩

/-- What is known of a query before its shape is read. -/
structure Header where
  /-- The operation that is named. -/
  operation : Operation
  /-- The text of the shape without blanks at its ends. -/
  body : Text
  /-- The text behind the shape without blanks at its ends. -/
  tail : Text
deriving DecidableEq

/-- Reads all of a query but its shape. The faults are looked for from left to right: the form of
the text and of the name, the operation, and the body. -/
def Header.ofText {ε : Type} (query : Text) : Except (ParseError ε) Header :=
  match Parts.ofText? query with
  | none => .error (.malformed query)
  | some parts =>
    let name := parts.name.trim
    let body := parts.body.trim
    if name.any Text.isBlank then .error (.malformed query)
    else
      match Operation.ofName? name with
      | none => .error (.unknownOperation name)
      | some operation =>
        if body.isEmpty then .error (.missingBody query)
        else .ok ⟨operation, body, parts.tail.trim⟩

end SpatialQuery
