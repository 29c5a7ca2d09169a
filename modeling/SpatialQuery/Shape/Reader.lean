import SpatialQuery.Shape.Basic
import SpatialQuery.Shape.Lexeme

/-!
# Reading shapes

A shape is written as `POINT(x y)`, `ENVELOPE(minX minY maxX maxY)`, `RECT(…)` with the same
numbers, or `CIRCLE(x y d=r)`, with the keyword in any case. The radius may also stand as a third
number. Without a keyword two numbers are a point and four a rectangle. Commas may stand anywhere
among the numbers.

All tokens are taken before any is looked at, so a piece of text that is no token is reported
before every other fault.
-/

namespace SpatialQuery

/-- A reader of geometries of type `S`, which refuses a text with a cause of type `ε`. -/
abbrev Reader (ε S : Type) := Text → Except ε S

/-- What stands between the parentheses of a shape, commas apart. -/
inductive Item where
  /-- A plain number. -/
  | coordinate (value : Binary64)
  /-- A number after `d=`. -/
  | radius (value : Binary64)
deriving DecidableEq

namespace Item

/-- The plain number of an item. -/
def coordinate? : Item → Option Binary64
  | coordinate x => some x
  | radius _ => none

/-- The radius of an item. -/
def radius? : Item → Option Binary64
  | coordinate _ => none
  | radius r => some r

/-- Puts an item in front of those that were read after it. -/
def consTo (item : Item) (read : List Item × List Token) : List Item × List Token :=
  (item :: read.1, read.2)

/-- Reads items up to their end, which is the closing parenthesis if one is awaited and otherwise
the last token. The answer holds the tokens after the end, too. -/
def readAll (awaitsClose : Bool) : List Token → Except ShapeError (List Item × List Token)
  | [] => if awaitsClose then .error .missingClose else .ok ([], [])
  | .number x :: rest => (readAll awaitsClose rest).map (coordinate x).consTo
  | .comma :: rest => readAll awaitsClose rest
  | .closeParen :: rest => if awaitsClose then .ok ([], rest) else .error (.unexpected .closeParen)
  | .word w :: .equals :: .number r :: rest =>
    if w.agreesUpToCase ['d'] then (readAll awaitsClose rest).map (radius r).consTo
    else .error (.unexpected (.word w))
  | .word w :: _ =>
    if w.agreesUpToCase ['d'] then .error .missingRadius else .error (.unexpected (.word w))
  | token :: _ => .error (.unexpected token)

end Item

/-- A shape as it is written: a leading word, if there is one, and the items. -/
structure Form where
  /-- The word in front of the parentheses. -/
  word : Option Text
  /-- The items in the order of the text. -/
  items : List Item
deriving DecidableEq

namespace Form

/-- The plain numbers of a form. -/
def coordinates (form : Form) : List Binary64 := form.items.filterMap Item.coordinate?

/-- The radius of a form is the last one that was written. -/
def radius? (form : Form) : Option Binary64 := (form.items.filterMap Item.radius?).getLast?

/-- Reads a list of tokens as a form. -/
def ofTokens : List Token → Except ShapeError Form
  | [] => .error .empty
  | .word w :: .openParen :: rest => do
    let (items, after) ← Item.readAll true rest
    match after with
    | [] => return ⟨some w, items⟩
    | extra :: _ => throw (.trailing extra)
  | .word w :: _ => .error (.missingOpen w)
  | tokens => do
    let (items, _) ← Item.readAll false tokens
    return ⟨none, items⟩

end Form

namespace Shape

/-- The rectangle with the given corners, unless it is reversed. -/
def ofCorners (r : Rectangle) : Except ShapeError Shape :=
  if r.isReversed then .error .reversed else .ok (rectangle r)

/-- The circle with the given center and radius, unless the radius is below zero. -/
def ofCircle (c : Circle) : Except ShapeError Shape :=
  if c.radius.lt .zero then .error .negativeRadius else .ok (circle c)

/-- The shape that numbers make without a keyword. -/
def ofBare (coordinates : List Binary64) (radius : Option Binary64) : Except ShapeError Shape :=
  match coordinates, radius with
  | [x, y], none => .ok (point ⟨x, y⟩)
  | [minX, minY, maxX, maxY], none => ofCorners ⟨minX, minY, maxX, maxY⟩
  | _, _ => .error (.wrongBareCount coordinates.length)

/-- The shape that numbers make after a keyword. -/
def ofKeyword (keyword : Keyword) (coordinates : List Binary64) (radius : Option Binary64) :
    Except ShapeError Shape :=
  match keyword, coordinates, radius with
  | .point, [x, y], none => .ok (point ⟨x, y⟩)
  | .envelope, [minX, minY, maxX, maxY], none => ofCorners ⟨minX, minY, maxX, maxY⟩
  | .rect, [minX, minY, maxX, maxY], none => ofCorners ⟨minX, minY, maxX, maxY⟩
  | .circle, [x, y], some r => ofCircle ⟨⟨x, y⟩, r⟩
  | .circle, [x, y, r], none => ofCircle ⟨⟨x, y⟩, r⟩
  | _, _, _ => .error (.wrongCount keyword coordinates.length)

/-- The shape that a form writes. -/
def ofForm (form : Form) : Except ShapeError Shape :=
  match form.word with
  | none => ofBare form.coordinates form.radius?
  | some word =>
    match Keyword.ofWord? word with
    | some keyword => ofKeyword keyword form.coordinates form.radius?
    | none => .error (.unknownShape word.upper)

/-- Reads the text of a shape. -/
def read : Reader ShapeError Shape := fun t => do
  let tokens ← Token.ofText t
  let form ← Form.ofTokens tokens
  ofForm form

end Shape

end SpatialQuery
