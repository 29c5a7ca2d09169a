import SpatialQuery.Text.Basic

/-!
# Spatial operations

The closed set of predicates that a query can ask for. Each has a name, by which it is looked up
exactly, and fixed capabilities.
-/

namespace SpatialQuery

/-- A spatial predicate. -/
inductive Operation where
  | bboxIntersects
  | bboxWithin
  | contains
  | intersects
  | isEqualTo
  | isDisjointTo
  | isWithin
  | overlaps
  | similarTo
  | distance
deriving DecidableEq, Inhabited

/-- What an operation offers and asks for. -/
structure Capabilities where
  /-- Matches can be ranked by a score. -/
  scoreIsMeaningful : Bool
  /-- The indexed geometry has to have area. -/
  sourceNeedsArea : Bool
  /-- The geometry of the query has to have area. -/
  targetNeedsArea : Bool
deriving DecidableEq

namespace Operation

/-- Every operation, in the order in which they are listed. -/
def all : List Operation :=
  [bboxIntersects, bboxWithin, contains, intersects, isEqualTo, isDisjointTo, isWithin, overlaps,
    similarTo, distance]

/-- The name of an operation. -/
def name : Operation → Text
  | bboxIntersects => "BBoxIntersects".toList
  | bboxWithin => "BBoxWithin".toList
  | contains => "Contains".toList
  | intersects => "Intersects".toList
  | isEqualTo => "IsEqualTo".toList
  | isDisjointTo => "IsDisjointTo".toList
  | isWithin => "IsWithin".toList
  | overlaps => "Overlaps".toList
  | similarTo => "SimilarTo".toList
  | distance => "Distance".toList

/-- Looks an operation up by its exact name. -/
def ofName? (name : Text) : Option Operation := all.find? fun op => op.name == name

/-- The capabilities of an operation: equality and disjointness have no score, containment needs
an indexed area, and being within or overlapping needs an area in the query. -/
def capabilities : Operation → Capabilities
  | bboxIntersects => ⟨true, false, false⟩
  | bboxWithin => ⟨true, false, false⟩
  | contains => ⟨true, true, false⟩
  | intersects => ⟨true, false, false⟩
  | isEqualTo => ⟨false, false, false⟩
  | isDisjointTo => ⟨false, false, false⟩
  | isWithin => ⟨true, false, true⟩
  | overlaps => ⟨true, false, true⟩
  | similarTo => ⟨true, false, false⟩
  | distance => ⟨true, false, false⟩

/-- Matches of the operation can be ranked by a score. -/
def scoreIsMeaningful (op : Operation) : Bool := op.capabilities.scoreIsMeaningful

/-- The operation needs an indexed geometry with area. -/
def sourceNeedsArea (op : Operation) : Bool := op.capabilities.sourceNeedsArea

/-- The operation needs a geometry with area in the query. -/
def targetNeedsArea (op : Operation) : Bool := op.capabilities.targetNeedsArea

/-- An operation is found by its own name. -/
theorem ofName?_name (op : Operation) : ofName? op.name = some op := by cases op <;> rfl

/-- A name that is found is the name of what is found. -/
theorem name_of_ofName? {name : Text} {op : Operation} (h : ofName? name = some op) :
    op.name = name := by
  have := List.find?_some h
  simpa using this

end Operation

end SpatialQuery
