import SpatialQuery.Modifiers
import SpatialQuery.Query.Basic
import SpatialQuery.Query.Header
import SpatialQuery.Shape.Reader

/-!
# Reading queries

A query is written as `Operation(shape) key=value …`. The keys are `cache`, `score`, `min` and
`max`. The shape is read by a reader of geometries; it is read before the modifiers are looked at,
and of the modifiers the bounds are looked at before the keys that are not known.

## Implementation notes

The fields are written as the modifiers are taken, and the score is taken for on if nothing is said
of it. A query that has no use for scores can break the rule of the score in between, and keeps it
again in the end.
-/

namespace SpatialQuery

/-- The key of the modifier that says whether the answer may be kept in a cache. -/
def cacheKey : Text := "cache".toList

/-- The key of the modifier that says whether matches get a score. -/
def scoreKey : Text := "score".toList

/-- The value of a flag is on exactly when it is the word `true` in any case. -/
def flagValue (value : Text) : Bool := value.agreesUpToCase "true".toList

/-- What a flag is set to, which is the given one if nothing is said of it. -/
def flagOr (value : Option Text) (other : Bool) : Bool := (value.map flagValue).getD other

/-- What a bound is set to, which is nothing if nothing is said of it. -/
def Bound.read {ε : Type} (bound : Bound) :
    Option Text → Except (ParseError ε) (Option Binary64)
  | none => .ok none
  | some value =>
    match Binary64.read value with
    | .ok x => .ok (some x)
    | .error cause => .error (.invalidNumber bound value cause)

namespace Query

variable {ε S : Type}

/-- Sets the fields of a query as modifiers say. Each known key is taken out of them, and no other
one may be left in the end. -/
def setFields (q : Query S) (m : Modifiers) : Except (ParseError ε) (Query S) := do
  let (cache, m) := m.take cacheKey
  let q := { q with cacheable := flagOr cache q.cacheable }
  let (score, m) := m.take scoreKey
  let q := { q with calculateScore := flagOr score true }
  let (min, m) := m.take Bound.min.key
  let q := { q with min := ← Bound.min.read min }
  let (max, m) := m.take Bound.max.key
  let q := { q with max := ← Bound.max.read max }
  if m.isEmpty then return q
  throw (.unknownParameters m.keys)

/-- Does not calculate a score that has no meaning. -/
def resetScore (q : Query S) : Query S :=
  if q.operation.scoreIsMeaningful then q else { q with calculateScore := false }

/-- Changes a query as the text behind its shape says, if there is any. -/
def modify (q : Query S) (tail : Text) : Except (ParseError ε) (Query S) :=
  let written := if tail.isEmpty then .ok q else q.setFields (.ofText tail)
  written.map resetScore

/-- Reads all of a query but what stands behind its shape, and takes that as it is written. -/
def readUnmodified (reader : Reader ε S) (t : Text) : Except (ParseError ε) (Query S × Text) := do
  let header ← Header.ofText t
  match reader header.body with
  | .ok shape => return (new header.operation shape, header.tail)
  | .error cause => throw (.invalidShape cause)

/-- Reads a query. -/
def parse (reader : Reader ε S) (t : Text) : Except (ParseError ε) (Query S) := do
  let (q, tail) ← readUnmodified reader t
  q.modify tail

end Query

end SpatialQuery
