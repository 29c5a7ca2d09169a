import Mathlib
import SpatialQuery.Number.ReadBack
import SpatialQuery.Shape.Lexeme

/-!
# The characters of the text of a number

The text of a number, finite or not, is one run: it holds no blank, no parenthesis, no comma and no
equals sign. The text of a finite number does not begin with a letter, so it is no word.
-/

namespace SpatialQuery

theorem toNat_bounds_of_isDigit {c : Char} (h : c.isDigit = true) :
    48 ≤ c.toNat ∧ c.toNat ≤ 57 := by
  simp only [Char.isDigit, Bool.and_eq_true, decide_eq_true_eq, UInt32.le_iff_toNat_le] at h
  exact h

theorem isBlank_of_isDigit {c : Char} (h : c.isDigit = true) : Text.isBlank c = false := by
  have := toNat_bounds_of_isDigit h
  simp [Text.isBlank]
  omega

theorem isMark_of_isDigit {c : Char} (h : c.isDigit = true) : isMark c = false := by
  have hne : ∀ d : Char, d.isDigit = false → c ≠ d := by
    rintro d hd rfl
    rw [hd] at h
    cases h
  simp [isMark, Token.ofMark?, hne '(' rfl, hne ')' rfl, hne ',' rfl, hne '=' rfl]

theorem isRunChar_of_isDigit {c : Char} (h : c.isDigit = true) : isRunChar c = true := by
  simp [isRunChar, isMark_of_isDigit h, isBlank_of_isDigit h]

theorem isLetter_of_isDigit {c : Char} (h : c.isDigit = true) : Text.isLetter c = false := by
  obtain ⟨hlow, hhigh⟩ := toNat_bounds_of_isDigit h
  have hascii : c.toNat < 0x80 := by omega
  have hupper : c.isUpper = false := by
    simp only [Char.isUpper, decide_eq_false_iff_not]
    rintro ⟨hle, _⟩
    have : 65 ≤ c.toNat := hle
    omega
  have hlower : c.isLower = false := by
    simp only [Char.isLower, Bool.and_eq_false_iff, decide_eq_false_iff_not]
    left
    intro hle
    have : 97 ≤ c.toNat := hle
    omega
  simp [Text.isLetter, hascii, Char.isAlpha, hupper, hlower]

namespace Binary64

theorem isRunChar_of_mem_signText {negative : Bool} {c : Char} (h : c ∈ signText negative) :
    isRunChar c = true := by
  cases negative with
  | false => cases h
  | true =>
      obtain rfl := List.mem_singleton.1 h
      decide

theorem text_finite (negative : Bool) (rank : Fin magnitudeCount) :
    (finite negative rank).text = signText negative ++ (shortest rank).positional := rfl

theorem isRunChar_of_mem_text {x : Binary64} {c : Char} (h : c ∈ x.text) : isRunChar c = true := by
  cases x with
  | nan =>
      have hall : ∀ d ∈ "NaN".toList, isRunChar d = true := List.all_eq_true.1 (by decide)
      exact hall c h
  | infinite negative =>
      rcases List.mem_append.1 h with h | h
      · exact isRunChar_of_mem_signText h
      · have hall : ∀ d ∈ "inf".toList, isRunChar d = true := List.all_eq_true.1 (by decide)
        exact hall c h
  | finite negative rank =>
      obtain ⟨_, _, _, _, hall⟩ := Literal.positional_eq_cons (shortest rank)
      rcases List.mem_append.1 h with h | h
      · exact isRunChar_of_mem_signText h
      · rcases hall c h with hdigit | rfl
        · exact isRunChar_of_isDigit hdigit
        · decide

theorem text_ne_nil (x : Binary64) : x.text ≠ [] := by
  cases x with
  | nan => exact List.cons_ne_nil _ _
  | infinite negative => exact List.append_ne_nil_of_right_ne_nil _ (List.cons_ne_nil _ _)
  | finite negative rank =>
      obtain ⟨c, rest, hpositional, _⟩ := Literal.positional_eq_cons (shortest rank)
      rw [text_finite, hpositional]
      exact List.append_ne_nil_of_right_ne_nil _ (List.cons_ne_nil _ _)

/-- A finite number begins with a digit or a minus. -/
theorem exists_text_eq_cons {x : Binary64} (h : x.isFinite = true) :
    ∃ c rest, x.text = c :: rest ∧ Text.isLetter c = false := by
  cases x with
  | nan => cases h
  | infinite negative => cases h
  | finite negative rank =>
      obtain ⟨c, rest, hpositional, hdigit, _⟩ := Literal.positional_eq_cons (shortest rank)
      rw [text_finite, hpositional]
      cases negative with
      | false => exact ⟨c, rest, rfl, isLetter_of_isDigit hdigit⟩
      | true => exact ⟨'-', c :: rest, rfl, by decide⟩

end Binary64

end SpatialQuery
