/-!
# Text as a list of characters

Every text of the library is a list of Unicode characters. This module holds the cuts that the
grammar of a query is made of: at the first or the last occurrence of a character, around blanks,
and into the pieces between separators. Each cut loses nothing but the characters it is made at.

## Implementation notes

Positions are measured in bytes of the UTF-8 form, as a reader of a message counts them, and
only `byteLength` speaks of them; all cutting is done on the list itself.
-/

namespace SpatialQuery

/-- A text is the list of its Unicode characters. -/
abbrev Text := List Char

namespace Text

/-- The number of bytes of the UTF-8 form of a text. -/
def byteLength (t : Text) : Nat := t.foldr (fun c length => c.utf8Size + length) 0

/-- Cuts a text at its first `mark`, which belongs to neither part. -/
def cutFirst (mark : Char) (t : Text) : Option (Text × Text) :=
  match t.dropWhile (· != mark) with
  | [] => none
  | _ :: after => some (t.takeWhile (· != mark), after)

/-- Cuts a text at its last `mark`, which belongs to neither part. -/
def cutLast (mark : Char) (t : Text) : Option (Text × Text) :=
  (cutFirst mark t.reverse).map fun (after, before) => (before.reverse, after.reverse)

/-- The pieces between separators that are not empty. -/
def fields (separates : Char → Bool) (t : Text) : List Text :=
  (t.splitOnP separates).filter fun piece => !piece.isEmpty

/-- ASCII letters become capitals, all else stays. -/
def upper (t : Text) : Text := t.map Char.toUpper

/-- Two texts agree when they differ in nothing but the case of ASCII letters. -/
def agreesUpToCase (s t : Text) : Bool := s.upper == t.upper

/-- The decimal digits of a number, without leading zeros. -/
def ofNat (n : Nat) : Text := Nat.toDigits 10 n

/-- Drops the blanks in front of a text. -/
def trimStart (blank : Char → Bool) (t : Text) : Text := t.dropWhile blank

/-- Drops the blanks at the end of a text. -/
def trimEnd (blank : Char → Bool) (t : Text) : Text := (t.reverse.dropWhile blank).reverse

/-- The fields of two texts with a separator between them are the fields of both. -/
theorem fields_append_cons {separates : Char → Bool} {c : Char} (hc : separates c = true)
    (s t : Text) :
    fields separates (s ++ c :: t) = fields separates s ++ fields separates t := by
  rw [fields, List.splitOnP_append_cons s t hc, List.filter_append]
  rfl

/-- A first cut loses the mark and nothing else, and the mark does not occur before it. -/
theorem cutFirst_eq_some_iff {mark : Char} {t before after : Text} :
    cutFirst mark t = some (before, after) ↔ t = before ++ mark :: after ∧ mark ∉ before := by
  induction t generalizing before with
  | nil => simp [cutFirst]
  | cons c t ih =>
    by_cases hc : c = mark
    · subst hc
      cases before with
      | nil => simp [cutFirst, eq_comm]
      | cons d before => simp [cutFirst]; grind
    · have step : cutFirst mark (c :: t) = (cutFirst mark t).map fun p => (c :: p.1, p.2) := by
        simp only [cutFirst, List.dropWhile_cons, List.takeWhile_cons, bne_iff_ne, ne_eq, hc,
          not_false_eq_true, ↓reduceIte]
        cases List.dropWhile (· != mark) t <;> rfl
      rw [step]
      cases before with
      | nil => simp; grind
      | cons d before =>
        simp only [Option.map_eq_some_iff, Prod.mk.injEq, Prod.exists, List.cons_append,
          List.cons.injEq, List.mem_cons, not_or]
        constructor
        · rintro ⟨b, a, h, ⟨rfl, rfl⟩, rfl⟩
          have := ih.1 h
          exact ⟨⟨rfl, this.1⟩, fun e => hc e.symm, this.2⟩
        · rintro ⟨⟨rfl, h⟩, _, hb⟩
          exact ⟨before, after, ih.2 ⟨h, hb⟩, ⟨rfl, rfl⟩, rfl⟩

/-- There is no first cut exactly where there is no mark. -/
theorem cutFirst_eq_none_iff {mark : Char} {t : Text} : cutFirst mark t = none ↔ mark ∉ t := by
  constructor
  · intro h hmem
    obtain ⟨before, after, ht, hbefore⟩ := List.eq_append_cons_of_mem hmem
    rw [cutFirst_eq_some_iff.2 ⟨ht, hbefore⟩] at h
    cases h
  · intro h
    cases hcut : cutFirst mark t with
    | none => rfl
    | some parts =>
        have ht := (cutFirst_eq_some_iff.1 hcut).1
        exact absurd (ht ▸ List.mem_append_right _ List.mem_cons_self) h

/-- A last cut loses the mark and nothing else, and the mark does not occur after it. -/
theorem cutLast_eq_some_iff {mark : Char} {t before after : Text} :
    cutLast mark t = some (before, after) ↔ t = before ++ mark :: after ∧ mark ∉ after := by
  simp only [cutLast, Option.map_eq_some_iff, Prod.mk.injEq, Prod.exists]
  constructor
  · rintro ⟨a, b, h, rfl, rfl⟩
    have ⟨ht, hm⟩ := cutFirst_eq_some_iff.1 h
    have := congrArg List.reverse ht
    simp only [List.reverse_reverse, List.reverse_append, List.reverse_cons, List.append_assoc,
      List.singleton_append] at this
    exact ⟨this, by simpa using hm⟩
  · rintro ⟨rfl, hm⟩
    refine ⟨after.reverse, before.reverse, cutFirst_eq_some_iff.2 ⟨?_, by simpa using hm⟩, ?_, ?_⟩
      <;> simp

end Text

end SpatialQuery
