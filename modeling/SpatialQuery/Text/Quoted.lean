import SpatialQuery.Text.Shown
import SpatialQuery.Text.Basic

/-!
# Quoted text

A text taken from a query is written into a log line between double quotes, with every character
that does not show escaped. A quoted text therefore holds no control character, and the end of
the line cannot be forged.
-/

namespace SpatialQuery.Text

/-- The lower-case hexadecimal number of a character between braces. -/
def codePointEscape (c : Char) : Text :=
  ['\\', 'u', '\x7b'] ++ Nat.toDigits 16 c.toNat ++ ['\x7d']

/-- A character as it stands inside double quotes. -/
def escaped (c : Char) : Text :=
  if c = '\x00' then ['\\', '0']
  else if c = '\t' then ['\\', 't']
  else if c = '\r' then ['\\', 'r']
  else if c = '\n' then ['\\', 'n']
  else if c = '\\' then ['\\', '\\']
  else if c = '"' then ['\\', '"']
  else if isShown c then [c]
  else codePointEscape c

/-- A text between double quotes. -/
def quoted (t : Text) : Text := '"' :: t.flatMap escaped ++ ['"']

end SpatialQuery.Text
