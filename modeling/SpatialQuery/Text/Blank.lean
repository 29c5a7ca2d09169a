import SpatialQuery.Text.Basic

/-!
# Blanks

A blank is a character with the Unicode property White_Space. Queries, shape bodies and lines of
input are trimmed of blanks; the separators of modifiers are a smaller class of their own.
-/

namespace SpatialQuery.Text

/-- The characters with the Unicode property White_Space. -/
def isBlank (c : Char) : Bool :=
  let n := c.toNat
  (0x9 ≤ n && n ≤ 0xD) || n == 0x20 || n == 0x85 || n == 0xA0 || n == 0x1680 ||
    (0x2000 ≤ n && n ≤ 0x200A) || n == 0x2028 || n == 0x2029 || n == 0x202F || n == 0x205F ||
    n == 0x3000

/-- A text without the blanks at its two ends. -/
def trim (t : Text) : Text := (t.trimStart isBlank).trimEnd isBlank

/-- A text that holds nothing but blanks. -/
def isAllBlank (t : Text) : Bool := t.all isBlank

end SpatialQuery.Text
