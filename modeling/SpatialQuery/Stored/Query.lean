import SpatialQuery.Query.Basic
import SpatialQuery.Stored.Shape

/-!
# Stored queries

A query is stored as its six named fields. The bounds may be missing from an object, or be
nothing. What is decoded goes through the functions that build queries, so the rule of the score
holds of it as well.
-/

namespace SpatialQuery

open Stored

namespace Operation

/-- The name of an operation as a stored variant. This table is apart from the names in queries. -/
def variantName : Operation → Text
  | bboxIntersects => "BBoxIntersects".toList
  | bboxWithin => "BBoxWithin".toList
  | contains => "Contains".toList
  | intersects => "Intersects".toList
  | isEqualTo => "IsEqualTo".toList
  | isDisjointTo => "IsDisjointTo".toList
  | isWithin => "IsWithin".toList
  | overlaps => "Overlaps".toList
  | similarTo => "SimilarTo".toList
  | distance => "Distance".toList

/-- Looks an operation up by its name as a stored variant. -/
def ofVariantName? (name : Text) : Option Operation := all.find? fun op => op.variantName == name

/-- Decodes an operation. A variant of its name has no content, or nothing as its content. -/
def decode : Decoder Operation := fun v => do
  let (name, content) ← Decoder.variant v
  match ofVariantName? name, content with
  | none, _ => throw .unknownVariant
  | some operation, none => return operation
  | some operation, some .null => return operation
  | some _, some _ => throw .invalidType

end Operation

namespace Query

variable {S : Type}

/-- The name of the operation. -/
def operationName : Text := "operation".toList

/-- The name of the shape. -/
def shapeName : Text := "shape".toList

/-- The name of the flag of the cache. -/
def cacheableName : Text := "cacheable".toList

/-- The name of the flag of the score. -/
def calculateScoreName : Text := "calculate_score".toList

/-- The name of the least distance. -/
def minName : Text := "min".toList

/-- The name of the greatest distance. -/
def maxName : Text := "max".toList

/-- The stored form of a query, given the stored form of its shape. -/
def encode (encodeShape : S → Value) (q : Query S) : Value :=
  .object [(operationName, .text q.operation.variantName), (shapeName, encodeShape q.shape),
    (cacheableName, .bool q.cacheable), (calculateScoreName, .bool q.calculateScore),
    (minName, .ofOptional q.min), (maxName, .ofOptional q.max)]

/-- Builds the query that fields describe. -/
def ofStored (operation : Operation) (shape : S) (cacheable calculateScore : Bool)
    (min max : Option Binary64) : Query S :=
  ((((new operation shape).withCacheable cacheable).withCalculateScore calculateScore).withMin
    min).withMax max

/-- Decodes a query from named fields. -/
def ofFields (decodeShape : Decoder S) (fields : List (Text × Value)) :
    Except DecodeError (Query S) := do
  let cacheable ← Decoder.bool.field? fields cacheableName
  let calculateScore ← Decoder.bool.field? fields calculateScoreName
  let max ← Decoder.number.optional.field? fields maxName
  let min ← Decoder.number.optional.field? fields minName
  let operation ← Operation.decode.field? fields operationName
  let shape ← decodeShape.field? fields shapeName
  let operation ← Decoder.require operationName operation
  let shape ← Decoder.require shapeName shape
  let cacheable ← Decoder.require cacheableName cacheable
  let calculateScore ← Decoder.require calculateScoreName calculateScore
  return ofStored operation shape cacheable calculateScore (min.getD none) (max.getD none)

/-- Decodes a query from the items of an array. -/
def ofItems (decodeShape : Decoder S) (items : List Value) : Except DecodeError (Query S) := do
  let (operation, items) ← Operation.decode.next items
  let (shape, items) ← decodeShape.next items
  let (cacheable, items) ← Decoder.bool.next items
  let (calculateScore, items) ← Decoder.bool.next items
  let (min, items) ← Decoder.number.optional.next items
  let (max, items) ← Decoder.number.optional.next items
  Decoder.finish items
  return ofStored operation shape cacheable calculateScore min max

/-- Decodes a query, given the decoder of its shape. -/
def decode (decodeShape : Decoder S) : Decoder (Query S) :=
  .fieldsOrItems (ofFields decodeShape) (ofItems decodeShape)

end Query

end SpatialQuery
