import SpatialQuery.Proofs.Shape.Lexed
import SpatialQuery.Proofs.Text.Offset
import SpatialQuery.Shape.Reader

/-!
# Scanning the text of a shape by offsets

A scanner holds the text that is left and the offset at which it begins. Each step takes some
number of bytes off the front, which is partial: the cut has to be on a boundary of the text that
is left. `all?_eq` says that no step fails, and that the tokens are those of the lexemes.
-/

namespace SpatialQuery

/-- The text that is left to scan and the offset at which it begins. -/
structure Scanner where
  /-- The text that is left. -/
  tail : Text
  /-- The number of bytes in front of it. -/
  position : Nat

namespace Scanner

/-- Takes a number of bytes off the front. -/
def advance? (s : Scanner) (count : Nat) : Option (Text × Scanner) := do
  let (word, tail) ← s.tail.splitAt? count
  return (word, ⟨tail, s.position + count⟩)

/-- Scans the token at the front, unless nothing is left. -/
def token? (s : Scanner) : Option (Option (Except ShapeError Token) × Scanner) :=
  match s.tail with
  | [] => some (none, s)
  | c :: _ =>
    match Token.ofMark? c with
    | some mark => do
      let (_, rest) ← s.advance? 1
      return (some (.ok mark), rest)
    | none => do
      let (run, rest) ← s.advance? (s.tail.prefixLength isRunChar)
      return (some (Token.ofLexeme ⟨s.position, run⟩), rest)

/-- Scans the next token behind any blanks. -/
def next? (s : Scanner) : Option (Option (Except ShapeError Token) × Scanner) := do
  let (_, rest) ← s.advance? (s.tail.prefixLength Text.isBlank)
  rest.token?

variable {c : Char} {t : Text} {n : Nat}

section Steps

theorem advance?_prefixLength (p : Char → Bool) (t : Text) (n : Nat) :
    advance? ⟨t, n⟩ (t.prefixLength p) =
      some (t.takeWhile p, ⟨t.dropWhile p, n + t.prefixLength p⟩) := by
  unfold advance?
  rw [Text.splitAt?_prefixLength]
  rfl

theorem next?_eq (t : Text) (n : Nat) :
    next? ⟨t, n⟩ = token? ⟨t.dropWhile Text.isBlank, n + t.prefixLength Text.isBlank⟩ := by
  unfold next?
  rw [advance?_prefixLength]
  rfl

theorem next?_nil (n : Nat) : next? ⟨[], n⟩ = some (none, ⟨[], n⟩) := by
  rw [next?_eq]
  rfl

theorem utf8Size_of_isMark (h : isMark c = true) : c.utf8Size = 1 := by
  have hmark : c = '(' ∨ c = ')' ∨ c = ',' ∨ c = '=' := by
    by_contra hnone
    simp only [not_or] at hnone
    simp [isMark, Token.ofMark?, hnone] at h
  rcases hmark with rfl | rfl | rfl | rfl
  all_goals rfl

theorem token?_of_mark {mark : Token} (h : Token.ofMark? c = some mark) (t : Text) (n : Nat) :
    token? ⟨c :: t, n⟩ = some (some (.ok mark), ⟨t, n + c.utf8Size⟩) := by
  have hsize : c.utf8Size = 1 := utf8Size_of_isMark (by simp [isMark, h])
  have hsplit : Text.splitAt? (c :: t) 1 = some ([c], t) := by
    rw [← hsize]
    exact Text.splitAt?_append [c] t
  unfold token? advance?
  simp only [h, hsplit, hsize]
  rfl

theorem token?_of_isRunChar (h : isRunChar c = true) (t : Text) (n : Nat) :
    token? ⟨c :: t, n⟩ =
      some (some (Token.ofLexeme ⟨n, c :: t.takeWhile isRunChar⟩),
        ⟨t.dropWhile isRunChar, n + Text.byteLength (c :: t.takeWhile isRunChar)⟩) := by
  have hrun : (c :: t).takeWhile isRunChar = c :: t.takeWhile isRunChar :=
    List.takeWhile_cons_of_pos h
  have hrest : (c :: t).dropWhile isRunChar = t.dropWhile isRunChar :=
    List.dropWhile_cons_of_pos h
  unfold token?
  simp only [Token.ofMark?_of_isRunChar h]
  rw [advance?_prefixLength, Text.prefixLength, hrun, hrest]
  rfl

theorem next?_of_isBlank (h : Text.isBlank c = true) (t : Text) (n : Nat) :
    next? ⟨c :: t, n⟩ = next? ⟨t, n + c.utf8Size⟩ := by
  rw [next?_eq, next?_eq, Text.prefixLength, Text.prefixLength, List.takeWhile_cons_of_pos h,
    List.dropWhile_cons_of_pos h, Text.byteLength_cons, Nat.add_assoc]

theorem next?_of_not_isBlank (h : Text.isBlank c = false) (t : Text) (n : Nat) :
    next? ⟨c :: t, n⟩ = token? ⟨c :: t, n⟩ := by
  have hneg : ¬Text.isBlank c = true := by simp [h]
  rw [next?_eq, Text.prefixLength, List.takeWhile_cons_of_neg hneg,
    List.dropWhile_cons_of_neg hneg]
  rfl

/-- A step that finds a token, or a run that is none, makes the text shorter. -/
theorem length_lt_of_next? {s rest : Scanner} {result : Except ShapeError Token}
    (h : s.next? = some (some result, rest)) : rest.tail.length < s.tail.length := by
  obtain ⟨t, n⟩ := s
  -- A blank in front is only skipped; it is the token or the run behind it that is taken away.
  induction t generalizing n with
  | nil =>
      rw [next?_nil] at h
      cases h
  | cons c t ih =>
      cases hblank : Text.isBlank c with
      | true =>
          rw [next?_of_isBlank hblank] at h
          exact Nat.lt_succ_of_lt (ih _ h)
      | false =>
          rw [next?_of_not_isBlank hblank] at h
          apply Nat.lt_succ_of_le
          cases hmark : Token.ofMark? c with
          | some mark =>
              rw [token?_of_mark hmark] at h
              cases h
              exact Nat.le_refl _
          | none =>
              rw [token?_of_isRunChar (isRunChar_iff.2 ⟨by simp [isMark, hmark], hblank⟩)] at h
              cases h
              exact (List.dropWhile_sublist isRunChar).length_le

end Steps

/-- Scans tokens up to the end of the text or the first run that is no token. -/
def all? (s : Scanner) : Option (Except ShapeError (List Token)) :=
  match _hnext : s.next? with
  | none => none
  | some (none, _) => some (.ok [])
  | some (some (.error e), _) => some (.error e)
  | some (some (.ok token), rest) => rest.all?.map fun tokens => tokens.map (token :: ·)
termination_by s.tail.length
decreasing_by exact length_lt_of_next? _hnext

section Runs

variable {s rest : Scanner}

/-- What a scanner makes of its text depends on its next step alone. -/
theorem all?_eq_match (s : Scanner) :
    s.all? =
      match s.next? with
      | none => none
      | some (none, _) => some (.ok [])
      | some (some (.error e), _) => some (.error e)
      | some (some (.ok token), rest) => rest.all?.map fun tokens => tokens.map (token :: ·) := by
  rw [all?.eq_def]
  split
  all_goals
    next h => rw [h]

theorem all?_of_next?_eq (h : s.next? = rest.next?) : s.all? = rest.all? := by
  rw [all?_eq_match, all?_eq_match rest, h]

theorem all?_of_lexeme {lexeme : Lexeme} {others : List Lexeme}
    (h : s.next? = some (some (Token.ofLexeme lexeme), rest))
    (hrest : rest.all? = some (Token.ofLexemes others)) :
    s.all? = some (Token.ofLexemes (lexeme :: others)) := by
  rw [all?_eq_match, h, Token.ofLexemes]
  cases Token.ofLexeme lexeme with
  | error e => rfl
  | ok token =>
      simp only [hrest, ok_bind]
      cases Token.ofLexemes others <;> rfl

/-- Scanning never fails, and it finds the tokens of the lexemes. -/
theorem all?_eq (t : Text) (n : Nat) : all? ⟨t, n⟩ = some (Token.ofLexemes (lexemes n t)) := by
  fun_induction lexemes n t with
  | case1 n =>
      rw [all?_eq_match, next?_nil]
      rfl
  | case2 n c t hblank ih => rw [all?_of_next?_eq (next?_of_isBlank hblank t n), ih]
  | case3 n c t hblank hmark ih =>
      obtain ⟨mark, hmark⟩ := Option.isSome_iff_exists.1 hmark
      have htoken : Token.ofLexeme ⟨n, [c]⟩ = .ok mark := by
        simp [Token.ofLexeme, Token.ofText?, hmark]
      apply all?_of_lexeme _ ih
      rw [next?_of_not_isBlank (by simpa using hblank), token?_of_mark hmark, htoken]
  | case4 n c t hblank hmark run ih =>
      apply all?_of_lexeme _ ih
      rw [next?_of_not_isBlank (by simpa using hblank)]
      exact token?_of_isRunChar (isRunChar_of_not hblank hmark) t n

end Runs

end Scanner

/-- Reads the text of a shape, with its tokens scanned by offsets. -/
def Shape.readByOffsets (t : Text) : Option (Except ShapeError Shape) := do
  let tokens ← Scanner.all? ⟨t, 0⟩
  return do
    let form ← Form.ofTokens (← tokens)
    ofForm form

theorem Shape.readByOffsets_eq (t : Text) : readByOffsets t = some (read t) := by
  unfold readByOffsets
  rw [Scanner.all?_eq]
  rfl

end SpatialQuery
