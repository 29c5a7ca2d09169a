import SpatialQuery.Shape.Error
import SpatialQuery.Text.Blank
import SpatialQuery.Text.Letter

/-!
# Lexemes of a shape

A lexeme is a piece of text with the byte offset at which it starts. The text of a shape falls
into blanks, marks of one character, and maximal runs of all other characters; blanks belong to no
lexeme. A lexeme that is not a mark is a word when its first character is a letter, and otherwise
it has to be the literal of a finite number.
-/

namespace SpatialQuery

/-- A piece of text and the byte offset at which it starts. -/
structure Lexeme where
  /-- The number of bytes in front of the piece. -/
  offset : Nat
  /-- The piece itself. -/
  text : Text
deriving DecidableEq

/-- The token that a mark is. -/
def Token.ofMark? (c : Char) : Option Token :=
  if c = '(' then some openParen
  else if c = ')' then some closeParen
  else if c = ',' then some comma
  else if c = '=' then some equals
  else none

/-- The characters that are tokens by themselves. -/
def isMark (c : Char) : Bool := (Token.ofMark? c).isSome

/-- The characters that runs are made of. -/
def isRunChar (c : Char) : Bool := !isMark c && !Text.isBlank c

/-- A run is made of what is neither a mark nor a blank. -/
theorem isRunChar_iff {c : Char} :
    isRunChar c = true ↔ isMark c = false ∧ Text.isBlank c = false := by
  simp [isRunChar]

/-- The lexemes of a text that starts at the given byte offset. -/
def lexemes (offset : Nat) : Text → List Lexeme
  | [] => []
  | c :: rest =>
    if Text.isBlank c then lexemes (offset + c.utf8Size) rest
    else if isMark c then ⟨offset, [c]⟩ :: lexemes (offset + c.utf8Size) rest
    else
      let run : Text := c :: rest.takeWhile isRunChar
      ⟨offset, run⟩ :: lexemes (offset + run.byteLength) (rest.dropWhile isRunChar)
termination_by t => t.length
decreasing_by
  all_goals simp only [List.length_cons]
  · omega
  · omega
  · have := (@List.dropWhile_sublist _ rest isRunChar).length_le
    omega

/-- A mark is no blank. -/
theorem isBlank_of_isMark {c : Char} (h : isMark c = true) : Text.isBlank c = false := by
  unfold isMark Token.ofMark? at h
  split at h
  · subst c
    decide
  · split at h
    · subst c
      decide
    · split at h
      · subst c
        decide
      · split at h
        · subst c
          decide
        · exact absurd h (by decide)

/-- A text falls into blanks and lexemes, and nothing else is lost. -/
theorem flatMap_text_lexemes (offset : Nat) (t : Text) :
    (lexemes offset t).flatMap Lexeme.text = t.filter (!Text.isBlank ·) := by
  fun_induction lexemes offset t with
  | case1 => rfl
  | case2 offset c rest hb ih =>
    rw [ih, List.filter_cons, if_neg (by rw [hb]; decide)]
  | case3 offset c rest hb hm ih =>
    rw [List.flatMap_cons, ih, List.filter_cons, if_pos (by rw [isBlank_of_isMark hm]; decide)]
    rfl
  | case4 offset c rest hb hm run ih =>
    have hrun : (rest.takeWhile isRunChar).filter (!Text.isBlank ·) =
        rest.takeWhile isRunChar := by
      rw [List.filter_eq_self]
      intro a ha
      have hall := List.all_eq_true.1 (@List.all_takeWhile _ isRunChar rest) a ha
      exact (Bool.and_eq_true _ _ ▸ hall).2
    have hsplit : rest.filter (!Text.isBlank ·) =
        rest.takeWhile isRunChar ++ (rest.dropWhile isRunChar).filter (!Text.isBlank ·) := by
      rw [← hrun, ← List.filter_append, List.takeWhile_append_dropWhile]
    have hc : (!Text.isBlank c) = true := by simpa using hb
    rw [List.flatMap_cons, ih, List.filter_cons, if_pos hc, hsplit]
    rfl

/-- The token of a text that is no mark and starts with the given character. -/
def Token.ofRun? (first : Char) (run : Text) : Option Token :=
  if Text.isLetter first then some (word run)
  else
    match Binary64.read run with
    | .ok x => if x.isFinite then some (number x) else none
    | .error _ => none

/-- The token that a text is, if it is one. -/
def Token.ofText? : Text → Option Token
  | [] => none
  | c :: rest => (ofMark? c).or (ofRun? c (c :: rest))

/-- The token of a lexeme. -/
def Token.ofLexeme (lexeme : Lexeme) : Except ShapeError Token :=
  match ofText? lexeme.text with
  | some token => .ok token
  | none => .error (.invalidCoordinate lexeme.text lexeme.offset)

/-- The tokens of a list of lexemes; the first lexeme that is not a token is the one reported. -/
def Token.ofLexemes : List Lexeme → Except ShapeError (List Token)
  | [] => .ok []
  | lexeme :: rest => do
    let token ← ofLexeme lexeme
    let tokens ← ofLexemes rest
    return token :: tokens

/-- All tokens of a text. -/
def Token.ofText (t : Text) : Except ShapeError (List Token) := ofLexemes (lexemes 0 t)

end SpatialQuery
