import SpatialQuery.Query.Parse
import SpatialQuery.Text.Quoted

/-!
# The record of reading a query

Reading a query is recorded: first the modifiers as they are written, if there are any and the
shape could be read, then the query, if all of it could be read. What comes from the query is
quoted, so that a record is one line whatever the query holds.
-/

namespace SpatialQuery

/-- A line of the record of reading a query. -/
inductive Record where
  /-- The modifiers of a query, of which nothing has been looked at yet. -/
  | modifiers (operation : Operation) (modifiers : Modifiers)
  /-- A query that has been read. -/
  | parsed (query : Text) (operation : Operation)
deriving DecidableEq

/-- The quoted bindings between braces, in ascending order of their keys. -/
def Modifiers.text (m : Modifiers) : Text :=
  let binding := fun (b : Binding) => Text.quoted b.1 ++ ": ".toList ++ Text.quoted b.2
  '\x7b' :: ", ".toList.intercalate (m.bindings.map binding) ++ ['\x7d']

/-- The line of a record: its level and what it tells. -/
def Record.text : Record → Text
  | modifiers operation m =>
    "TRACE ".toList ++ operation.name ++ " modifiers: ".toList ++ m.text
  | parsed query operation =>
    "DEBUG parsed ".toList ++ query.quoted ++ " as ".toList ++ operation.name

/-- The records of reading a query, in order, and what came of it. -/
structure Transcript (ε S : Type) where
  /-- The records in the order in which they were made. -/
  records : List Record
  /-- The query, or why the text is none. -/
  result : Except (ParseError ε) (Query S)

namespace Query

variable {ε S : Type}

/-- The records of modifiers that are about to be looked at, if there are any. -/
def noted (operation : Operation) (tail : Text) : List Record :=
  if tail.isEmpty then [] else [.modifiers operation (.ofText tail)]

/-- Reads a query and keeps the record of it. -/
def transcript (reader : Reader ε S) (t : Text) : Transcript ε S :=
  match readUnmodified reader t with
  | .error e => ⟨[], .error e⟩
  | .ok (q, tail) =>
    match q.modify tail with
    | .error e => ⟨noted q.operation tail, .error e⟩
    | .ok r => ⟨noted q.operation tail ++ [Record.parsed t r.operation], .ok r⟩

/-- Keeping the record does not change what comes of reading. -/
theorem result_transcript (reader : Reader ε S) (t : Text) :
    (transcript reader t).result = parse reader t := by
  unfold transcript parse
  cases h : readUnmodified reader t with
  | error e => rfl
  | ok p =>
    obtain ⟨q, tail⟩ := p
    show (match q.modify tail with
      | .error e => (⟨noted q.operation tail, .error e⟩ : Transcript ε S)
      | .ok r => ⟨noted q.operation tail ++ [Record.parsed t r.operation], .ok r⟩).result =
        q.modify tail
    cases q.modify tail <;> rfl

end Query

end SpatialQuery
