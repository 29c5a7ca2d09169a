import SpatialQuery.Shape.Basic
import SpatialQuery.Stored.Decoder

/-!
# Stored shapes

A shape is stored as a variant `Point`, `Rectangle` or `Circle` with its numbers as named fields.
Any numbers are taken, also those of a reversed rectangle.
-/

namespace SpatialQuery

open Stored

namespace Point

/-- The name of the first coordinate. -/
def xName : Text := "x".toList

/-- The name of the second coordinate. -/
def yName : Text := "y".toList

/-- The stored form of a point. -/
def encode (p : Point) : Value :=
  .object [(xName, .ofNumber p.x), (yName, .ofNumber p.y)]

/-- Decodes a point from named fields. -/
def ofFields (fields : List (Text × Value)) : Except DecodeError Point := do
  let x ← Decoder.number.field? fields xName
  let y ← Decoder.number.field? fields yName
  return ⟨← Decoder.require xName x, ← Decoder.require yName y⟩

/-- Decodes a point from the items of an array. -/
def ofItems (items : List Value) : Except DecodeError Point := do
  let (x, items) ← Decoder.number.next items
  let (y, items) ← Decoder.number.next items
  Decoder.finish items
  return ⟨x, y⟩

/-- Decodes a point. -/
def decode : Decoder Point := .fieldsOrItems ofFields ofItems

end Point

namespace Rectangle

/-- The name of the least first coordinate. -/
def minXName : Text := "min_x".toList

/-- The name of the least second coordinate. -/
def minYName : Text := "min_y".toList

/-- The name of the greatest first coordinate. -/
def maxXName : Text := "max_x".toList

/-- The name of the greatest second coordinate. -/
def maxYName : Text := "max_y".toList

/-- The stored form of a rectangle. -/
def encode (r : Rectangle) : Value :=
  .object [(minXName, .ofNumber r.minX), (minYName, .ofNumber r.minY),
    (maxXName, .ofNumber r.maxX), (maxYName, .ofNumber r.maxY)]

/-- Decodes a rectangle from named fields. -/
def ofFields (fields : List (Text × Value)) : Except DecodeError Rectangle := do
  let maxX ← Decoder.number.field? fields maxXName
  let maxY ← Decoder.number.field? fields maxYName
  let minX ← Decoder.number.field? fields minXName
  let minY ← Decoder.number.field? fields minYName
  return ⟨← Decoder.require minXName minX, ← Decoder.require minYName minY,
    ← Decoder.require maxXName maxX, ← Decoder.require maxYName maxY⟩

/-- Decodes a rectangle from the items of an array. -/
def ofItems (items : List Value) : Except DecodeError Rectangle := do
  let (minX, items) ← Decoder.number.next items
  let (minY, items) ← Decoder.number.next items
  let (maxX, items) ← Decoder.number.next items
  let (maxY, items) ← Decoder.number.next items
  Decoder.finish items
  return ⟨minX, minY, maxX, maxY⟩

/-- Decodes a rectangle. -/
def decode : Decoder Rectangle := .fieldsOrItems ofFields ofItems

end Rectangle

namespace Circle

/-- The name of the center. -/
def centerName : Text := "center".toList

/-- The name of the radius. -/
def radiusName : Text := "radius".toList

/-- The stored form of a circle. -/
def encode (c : Circle) : Value :=
  .object [(centerName, c.center.encode), (radiusName, .ofNumber c.radius)]

/-- Decodes a circle from named fields. -/
def ofFields (fields : List (Text × Value)) : Except DecodeError Circle := do
  let center ← Point.decode.field? fields centerName
  let radius ← Decoder.number.field? fields radiusName
  return ⟨← Decoder.require centerName center, ← Decoder.require radiusName radius⟩

/-- Decodes a circle from the items of an array. -/
def ofItems (items : List Value) : Except DecodeError Circle := do
  let (center, items) ← Point.decode.next items
  let (radius, items) ← Decoder.number.next items
  Decoder.finish items
  return ⟨center, radius⟩

/-- Decodes a circle. -/
def decode : Decoder Circle := .fieldsOrItems ofFields ofItems

end Circle

namespace Shape

/-- The name under which points are stored. -/
def pointName : Text := "Point".toList

/-- The name under which rectangles are stored. -/
def rectangleName : Text := "Rectangle".toList

/-- The name under which circles are stored. -/
def circleName : Text := "Circle".toList

/-- The stored form of a shape. -/
def encode : Shape → Value
  | point p => .ofVariant pointName p.encode
  | rectangle r => .ofVariant rectangleName r.encode
  | circle c => .ofVariant circleName c.encode

/-- The decoder of the content of a variant. -/
def decoderOf? (name : Text) : Option (Decoder Shape) :=
  if name = pointName then some fun v => (Point.decode v).map point
  else if name = rectangleName then some fun v => (Rectangle.decode v).map rectangle
  else if name = circleName then some fun v => (Circle.decode v).map circle
  else none

/-- Decodes a shape. Every variant has a content. -/
def decode : Decoder Shape := fun v => do
  let (name, content) ← Decoder.variant v
  match decoderOf? name, content with
  | none, _ => throw .unknownVariant
  | some _, none => throw .invalidType
  | some decodeContent, some content => decodeContent content

end Shape

end SpatialQuery
