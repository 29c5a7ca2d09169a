import SpatialQuery.Number.Shortest

/-!
# Shapes

The geometry of a query is of any type that tells whether it has area and how it is written. The
simple shapes are points, rectangles and circles with any numbers in them: reversed rectangles,
negative radii and numbers that are not finite can be built, but their text is not read back.
-/

namespace SpatialQuery

/-- A type of geometries that a query can hold. -/
class Geometry (S : Type) where
  /-- The geometry covers more than a line or a point. -/
  hasArea : S → Bool
  /-- The text of the geometry inside a query. -/
  text : S → Text

/-- A point of the plane. -/
structure Point where
  /-- The first coordinate. -/
  x : Binary64
  /-- The second coordinate. -/
  y : Binary64
deriving DecidableEq

/-- A rectangle with sides along the axes, given by its least and greatest coordinates. -/
structure Rectangle where
  /-- The least first coordinate. -/
  minX : Binary64
  /-- The least second coordinate. -/
  minY : Binary64
  /-- The greatest first coordinate. -/
  maxX : Binary64
  /-- The greatest second coordinate. -/
  maxY : Binary64
deriving DecidableEq

/-- A circle. -/
structure Circle where
  /-- The middle of the circle. -/
  center : Point
  /-- The distance of the circle from its center. -/
  radius : Binary64
deriving DecidableEq

/-- A simple shape. -/
inductive Shape where
  /-- A single point. -/
  | point (point : Point)
  /-- A rectangle along the axes. -/
  | rectangle (rectangle : Rectangle)
  /-- A circle around a point. -/
  | circle (circle : Circle)
deriving DecidableEq

/-- A rectangle is reversed when its least coordinate is above its greatest one on some axis. -/
def Rectangle.isReversed (r : Rectangle) : Bool := r.maxX.lt r.minX || r.maxY.lt r.minY

/-- The numbers of two points are equal. -/
def Point.sameValue (p q : Point) : Bool := p.x.sameValue q.x && p.y.sameValue q.y

/-- The numbers of two rectangles are equal. -/
def Rectangle.sameValue (r s : Rectangle) : Bool :=
  r.minX.sameValue s.minX && r.minY.sameValue s.minY &&
    r.maxX.sameValue s.maxX && r.maxY.sameValue s.maxY

/-- The numbers of two circles are equal. -/
def Circle.sameValue (c d : Circle) : Bool :=
  c.center.sameValue d.center && c.radius.sameValue d.radius

namespace Shape

/-- Two shapes are of one kind and their numbers are equal. -/
def sameValue : Shape → Shape → Bool
  | point p, point q => p.sameValue q
  | rectangle r, rectangle s => r.sameValue s
  | circle c, circle d => c.sameValue d
  | _, _ => false

/-- A rectangle has area when it extends along both axes, a circle when its radius is positive. -/
def hasArea : Shape → Bool
  | point _ => false
  | rectangle r => r.minX.lt r.maxX && r.minY.lt r.maxY
  | circle c => Binary64.zero.lt c.radius

/-- The texts of numbers with a blank between neighbours. -/
def numbersText (xs : List Binary64) : Text := [' '].intercalate (xs.map Binary64.text)

/-- The text of a shape: its keyword, and its numbers between parentheses. -/
def text : Shape → Text
  | point p => "POINT(".toList ++ numbersText [p.x, p.y] ++ [')']
  | rectangle r => "ENVELOPE(".toList ++ numbersText [r.minX, r.minY, r.maxX, r.maxY] ++ [')']
  | circle c =>
    "CIRCLE(".toList ++ numbersText [c.center.x, c.center.y] ++ " d=".toList ++ c.radius.text ++
      [')']

instance : Geometry Shape where
  hasArea := hasArea
  text := text

end Shape

end SpatialQuery
