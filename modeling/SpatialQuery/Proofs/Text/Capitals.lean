import Mathlib
import SpatialQuery.Number.Literal

/-!
# Texts and literals in capitals

What a function tells about characters it tells about their capitals, too, once it does so for the
twenty-six letters that have any: `apply_toUpper` checks them one by one. Cuts at such characters
commute with capitals, and a literal writes the same number in any case.
-/

namespace SpatialQuery

namespace Text

/-- The characters that have a capital. -/
def lowerCase : Text := "abcdefghijklmnopqrstuvwxyz".toList

theorem mem_lowerCase_of_isLower {c : Char} (h : c.isLower = true) : c ∈ lowerCase := by
  simp only [Char.isLower, Bool.and_eq_true, decide_eq_true_eq] at h
  have hlow : 97 ≤ c.toNat := h.1
  have hhigh : c.toNat ≤ 122 := h.2
  have hall : ∀ n < 123, 97 ≤ n → Char.ofNat n ∈ lowerCase := by decide
  have hmem := hall c.toNat (by omega) hlow
  rwa [Char.ofNat_toNat] at hmem

theorem apply_toUpper {α : Type} [DecidableEq α] {f : Char → α}
    (h : lowerCase.all (fun c => f c.toUpper == f c) = true) (c : Char) : f c.toUpper = f c := by
  by_cases hlower : c.isLower = true
  · exact beq_iff_eq.1 (List.all_eq_true.1 h c (mem_lowerCase_of_isLower hlower))
  · rw [Char.toUpper_eq_of_not_isLower hlower]

/-- A character that is no letter is the capital of nothing but itself. -/
theorem toUpper_eq_iff {mark : Char}
    (h : lowerCase.all (fun c => decide (c.toUpper = mark) == decide (c = mark)) = true)
    (c : Char) : c.toUpper = mark ↔ c = mark :=
  decide_eq_decide.1 (apply_toUpper (f := fun c => decide (c = mark)) h c)

variable {s t : Text}

theorem upper_cons (c : Char) (t : Text) : upper (c :: t) = c.toUpper :: t.upper := rfl

theorem upper_append (s t : Text) : (s ++ t).upper = s.upper ++ t.upper := List.map_append

theorem upper_append_congr {s' t' : Text} (hs : s.upper = s'.upper) (ht : t.upper = t'.upper) :
    (s ++ t).upper = (s' ++ t').upper := by
  rw [upper_append, upper_append, hs, ht]

@[simp] theorem upper_upper (t : Text) : t.upper.upper = t.upper := by
  simp [upper, Function.comp_def]

@[simp] theorem isEmpty_upper (t : Text) : t.upper.isEmpty = t.isEmpty := List.isEmpty_map

@[simp] theorem length_upper (t : Text) : t.upper.length = t.length := List.length_map _

theorem agreesUpToCase_iff : s.agreesUpToCase t = true ↔ s.upper = t.upper := beq_iff_eq

@[simp] theorem agreesUpToCase_upper (t s : Text) :
    t.upper.agreesUpToCase s = t.agreesUpToCase s := by
  unfold agreesUpToCase
  rw [upper_upper]

theorem utf8Size_toUpper (c : Char) : c.toUpper.utf8Size = c.utf8Size :=
  apply_toUpper (by decide) c

theorem byteLength_upper (t : Text) : t.upper.byteLength = t.byteLength := by
  induction t with
  | nil => rfl
  | cons c t ih =>
      change c.toUpper.utf8Size + byteLength (upper t) = c.utf8Size + byteLength t
      rw [utf8Size_toUpper, ih]

section Cuts

variable {p : Char → Bool} (hp : ∀ c : Char, p c.toUpper = p c)

include hp

theorem takeWhile_upper (t : Text) : t.upper.takeWhile p = upper (t.takeWhile p) := by
  have hcomp : p ∘ Char.toUpper = p := funext hp
  unfold upper
  rw [List.takeWhile_map, hcomp]

theorem dropWhile_upper (t : Text) : t.upper.dropWhile p = upper (t.dropWhile p) := by
  have hcomp : p ∘ Char.toUpper = p := funext hp
  unfold upper
  rw [List.dropWhile_map, hcomp]

end Cuts

theorem cutFirst_upper {mark : Char} (h : ∀ c : Char, (c.toUpper != mark) = (c != mark))
    (t : Text) : cutFirst mark t.upper = (cutFirst mark t).map (Prod.map upper upper) := by
  unfold cutFirst
  rw [takeWhile_upper h, dropWhile_upper h]
  cases t.dropWhile (· != mark) <;> rfl

end Text

namespace Literal

theorem appendDigits?_upper (n : Nat) (t : Text) :
    appendDigits? n t.upper = appendDigits? n t := by
  induction t generalizing n with
  | nil => rfl
  | cons c t ih =>
      have hdigit : digit? c.toUpper = digit? c := Text.apply_toUpper (by decide) c
      rw [Text.upper_cons, appendDigits?, appendDigits?, hdigit]
      cases digit? c with
      | none => rfl
      | some d => exact ih _

theorem natural?_upper (t : Text) : natural? t.upper = natural? t := by
  unfold natural?
  rw [Text.isEmpty_upper, appendDigits?_upper]

theorem signed_of_ne {c : Char} (hminus : c ≠ '-') (hplus : c ≠ '+') (t : Text) :
    signed (c :: t) = (false, c :: t) := by
  unfold signed
  split
  · next heq => exact absurd (List.cons.inj heq).1 hminus
  · next heq => exact absurd (List.cons.inj heq).1 hplus
  · rfl

theorem signed_upper (t : Text) : signed t.upper = ((signed t).1, (signed t).2.upper) := by
  cases t with
  | nil => rfl
  | cons c t =>
      by_cases hminus : c = '-'
      · subst hminus
        rfl
      · by_cases hplus : c = '+'
        · subst hplus
          rfl
        · have hminus' : c.toUpper ≠ '-' := (Text.toUpper_eq_iff (by decide) c).not.2 hminus
          have hplus' : c.toUpper ≠ '+' := (Text.toUpper_eq_iff (by decide) c).not.2 hplus
          rw [Text.upper_cons, signed_of_ne hminus' hplus', signed_of_ne hminus hplus]
          rfl

theorem exponent?_upper (t : Text) : exponent? t.upper = exponent? t := by
  unfold exponent?
  rw [signed_upper]
  simp only [natural?_upper]

theorem significand?_upper (t : Text) : significand? t.upper = significand? t := by
  unfold significand?
  have hpoint : ∀ c : Char, (c.toUpper != '.') = (c != '.') :=
    Text.apply_toUpper (f := (· != '.')) (by decide)
  rw [Text.cutFirst_upper hpoint]
  cases t.cutFirst '.' with
  | none => simp [appendDigits?_upper]
  | some parts => simp [← Text.upper_append, appendDigits?_upper]

theorem decimal?_upper (t : Text) : decimal? t.upper = decimal? t := by
  have hmark : ∀ c : Char, (!isExponentMark c.toUpper) = !isExponentMark c :=
    Text.apply_toUpper (f := (!isExponentMark ·)) (by decide)
  unfold decimal?
  rw [Text.takeWhile_upper hmark, Text.dropWhile_upper hmark, significand?_upper]
  cases t.dropWhile (!isExponentMark ·) with
  | nil => rfl
  | cons mark power => simp only [Text.upper_cons, exponent?_upper]

theorem word?_upper (negative : Bool) (t : Text) : word? negative t.upper = word? negative t := by
  unfold word?
  simp only [Text.agreesUpToCase_upper]

end Literal

/-- A literal writes the same number in any case. -/
theorem Binary64.read_upper (t : Text) : Binary64.read t.upper = Binary64.read t := by
  unfold Binary64.read
  simp only [Text.isEmpty_upper, Literal.signed_upper, Literal.decimal?_upper,
    Literal.word?_upper]

end SpatialQuery
