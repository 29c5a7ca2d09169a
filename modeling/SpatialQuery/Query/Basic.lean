import SpatialQuery.Operation
import SpatialQuery.Shape.Basic

/-!
# Spatial queries

A query says what to test against which shape, and how: whether its answer may be kept in a cache,
whether matches get a score, and between which bounds their distance has to lie.

No operation changes the rule of the score: a query of an operation without a meaningful score
never calculates one. The shape is checked against the operation only by `validate`.
-/

namespace SpatialQuery

/-- The arguments of a spatial query on geometries of type `S`. -/
structure Query (S : Type) where
  /-- The predicate to test. -/
  operation : Operation
  /-- The geometry to test against. -/
  shape : S
  /-- The answer may be kept in a cache. -/
  cacheable : Bool
  /-- Matches get a score. -/
  calculateScore : Bool
  /-- The least distance of a match. -/
  min : Option Binary64
  /-- The greatest distance of a match. -/
  max : Option Binary64
deriving DecidableEq

/-- The operation of a query needs a shape with area and did not get one. -/
structure AreaRequired where
  /-- The operation of the query. -/
  operation : Operation
deriving DecidableEq

/-- The wording of the fault. -/
def AreaRequired.message (e : AreaRequired) : Text :=
  e.operation.name ++ " only supports geometry with area".toList

namespace Query

variable {S : Type}

/-- The query of an operation and a shape with nothing else said: it may be kept in a cache, it
calculates a score if that has a meaning, and it has no bounds. -/
def new (operation : Operation) (shape : S) : Query S :=
  ⟨operation, shape, true, operation.scoreIsMeaningful, none, none⟩

/-- Says whether the answer may be kept in a cache. -/
def withCacheable (q : Query S) (cacheable : Bool) : Query S := { q with cacheable }

/-- Says whether matches get a score, which has no effect where scores have no meaning. -/
def withCalculateScore (q : Query S) (calculateScore : Bool) : Query S :=
  { q with calculateScore := calculateScore && q.operation.scoreIsMeaningful }

/-- Sets or removes the least distance. -/
def withMin (q : Query S) (min : Option Binary64) : Query S := { q with min }

/-- Sets or removes the greatest distance. -/
def withMax (q : Query S) (max : Option Binary64) : Query S := { q with max }

/-- Checks that an operation that needs a shape with area got one. -/
def validate [Geometry S] (q : Query S) : Except AreaRequired Unit :=
  if q.operation.targetNeedsArea && !Geometry.hasArea q.shape then .error ⟨q.operation⟩
  else .ok ()

/-- The text of a bound, if there is one. -/
def boundText (name : Text) : Option Binary64 → Text
  | some x => ' ' :: name ++ '=' :: x.text
  | none => []

/-- The text of a flag, which is written only when it is off. -/
def flagText (name : Text) (flag : Bool) : Text :=
  if flag then [] else ' ' :: name ++ "=false".toList

/-- The canonical text of a query: operation and shape, and the modifiers that are not what they
would be if nothing was said. -/
def text [Geometry S] (q : Query S) : Text :=
  q.operation.name ++ '(' :: Geometry.text q.shape ++ [')'] ++
    flagText "cache".toList q.cacheable ++
    flagText "score".toList (q.calculateScore || !q.operation.scoreIsMeaningful) ++
    boundText "min".toList q.min ++ boundText "max".toList q.max

/-- Two bounds are both absent or have the same value. -/
def sameBound : Option Binary64 → Option Binary64 → Bool
  | none, none => true
  | some x, some y => x.sameValue y
  | _, _ => false

/-- Two queries say the same, numbers being compared by value. -/
def sameValue (sameShape : S → S → Bool) (q r : Query S) : Bool :=
  q.operation == r.operation && sameShape q.shape r.shape && q.cacheable == r.cacheable &&
    q.calculateScore == r.calculateScore && sameBound q.min r.min && sameBound q.max r.max

end Query

end SpatialQuery
