import SpatialQuery.Proofs.Query.Simple
import SpatialQuery.Proofs.Shape.Wording

/-!
# What the causes of refused queries quote

A message on a refused query quotes parts of the query and holds fixed words beside that, so it is
one line if the query is. A canonical text is always one line.
-/

namespace SpatialQuery

/-- What a cause quotes is taken from a text. -/
def ParseError.ComesFrom (t : Text) : ParseError ShapeError → Prop
  | malformed query => query ⊆ t
  | unknownOperation name => name ⊆ t
  | missingBody query => query ⊆ t
  | invalidShape cause => cause.ComesFrom t
  | invalidNumber _ value _ => value ⊆ t
  | unknownParameters keys => ∀ key ∈ keys, key ⊆ t

section Origin

variable {t s : Text}

theorem Parts.Splits.subset {parts : Parts} (h : parts.Splits t) :
    parts.name ⊆ t ∧ parts.body ⊆ t ∧ parts.tail ⊆ t := by
  rw [h.query_eq]
  refine ⟨?_, ?_, ?_⟩
  · simp
  · intro c hc
    simp [hc]
  · intro c hc
    simp [hc]

theorem ShapeError.ComesFrom.mono {cause : ShapeError} (h : cause.ComesFrom s) (hst : s ⊆ t) :
    cause.ComesFrom t := by
  cases cause with
  | invalidCoordinate run offset => exact List.Subset.trans h hst
  | missingOpen word => exact List.Subset.trans h hst
  | unexpected token => exact Token.ComesFrom.mono h hst
  | trailing token => exact Token.ComesFrom.mono h hst
  | unknownShape word =>
      obtain ⟨w, hword, hw⟩ := h
      exact ⟨w, hword, List.Subset.trans hw hst⟩
  | _ => trivial

theorem Query.comesFrom_of_modified_error {m : Modifiers} {q : Query Shape}
    {cause : ParseError ShapeError} (hm : m = .ofText s) (hst : s ⊆ t)
    (h : Modified m q (.error cause)) : cause.ComesFrom t := by
  subst hm
  cases h with
  | invalidMin hget _ =>
      exact List.Subset.trans (Modifiers.subset_of_get?_ofText hget).2 hst
  | invalidMax _ hget _ =>
      exact List.Subset.trans (Modifiers.subset_of_get?_ofText hget).2 hst
  | unknownParameters _ _ _ _ hkeys =>
      intro key hkey
      obtain ⟨value, hget⟩ := Modifiers.mem_keys_iff.1 ((hkeys key).1 hkey).1
      exact List.Subset.trans (Modifiers.subset_of_get?_ofText hget).1 hst

theorem Query.comesFrom_of_parse_error {cause : ParseError ShapeError}
    (h : parse Shape.read t = .error cause) : cause.ComesFrom t := by
  have houtcome := outcome_parse Shape.read t
  rw [h] at houtcome
  cases houtcome with
  | unsplit _ => exact List.Subset.refl _
  | blankInName _ _ _ => exact List.Subset.refl _
  | unknownOperation hparts _ _ =>
      exact List.Subset.trans (Text.trim_subset _) hparts.subset.1
  | missingBody _ _ _ => exact List.Subset.refl _
  | invalidShape hparts _ _ hread =>
      exact (Shape.comesFrom_of_read_error hread).mono
        (List.Subset.trans (Text.trim_subset _) hparts.subset.2.1)
  | modified hparts _ _ _ htokens hm hresult =>
      exact comesFrom_of_modified_error ((collects_ofText_iff htokens).1 hm)
        (List.Subset.trans (Text.trim_subset _) hparts.subset.2.2) hresult

end Origin

section OneLine

theorem Operation.lineFeed_not_mem_name (operation : Operation) : '\n' ∉ operation.name := by
  cases operation <;> decide

theorem AreaRequired.lineFeed_not_mem_message (e : AreaRequired) : '\n' ∉ e.message :=
  List.not_mem_append e.operation.lineFeed_not_mem_name (by decide)

theorem Bound.lineFeed_not_mem_key (bound : Bound) : '\n' ∉ bound.key := by
  cases bound <;> decide

/-- The message on a query of one line is one line. -/
theorem ParseError.lineFeed_not_mem_message {t : Text} {cause : ParseError ShapeError}
    (h : cause.ComesFrom t) (ht : '\n' ∉ t) : '\n' ∉ cause.message ShapeError.message := by
  cases cause with
  | malformed query => exact List.not_mem_append (by decide) fun hmem => ht (h hmem)
  | unknownOperation name => exact List.not_mem_append (by decide) fun hmem => ht (h hmem)
  | missingBody query => exact List.not_mem_append (by decide) fun hmem => ht (h hmem)
  | invalidShape cause =>
      exact List.not_mem_append (by decide) (ShapeError.lineFeed_not_mem_message h ht)
  | invalidNumber bound value cause =>
      have hvalue : '\n' ∉ value := fun hmem => ht (h hmem)
      exact List.not_mem_append (List.not_mem_append (List.not_mem_append (by decide)
        bound.lineFeed_not_mem_key) (by decide)) hvalue
  | unknownParameters keys =>
      have hkeys : '\n' ∉ ", ".toList.intercalate keys :=
        Text.not_mem_intercalate (by decide) fun key hkey hmem => ht (h key hkey hmem)
      exact List.not_mem_append (by decide) hkeys

end OneLine

/-- The only blanks of a canonical text are spaces. -/
theorem Query.blank_not_mem_text (q : Query Shape) {c : Char} (hblank : Text.isBlank c = true)
    (hspace : c ≠ ' ') : c ∉ q.text := by
  have hname : c ∉ q.operation.name := by
    intro h
    rw [Operation.isBlank_of_mem_name h] at hblank
    cases hblank
  have hshape : c ∉ Geometry.text q.shape := q.shape.blank_not_mem_text hblank hspace
  have hprinted : c ∉ q.printed := by
    intro h
    rcases mem_printed h with rfl | rfl | h
    · exact hspace rfl
    · cases hblank
    · rw [(isRunChar_iff.1 h).2] at hblank
      cases hblank
  have hne : c ≠ '(' ∧ c ≠ ')' := by
    constructor
    · rintro rfl
      cases hblank
    · rintro rfl
      cases hblank
  rw [text_eq]
  refine List.not_mem_append hname (List.not_mem_cons_of_ne_of_not_mem hne.1 ?_)
  exact List.not_mem_append hshape (List.not_mem_cons_of_ne_of_not_mem hne.2 hprinted)

theorem Query.lineFeed_not_mem_text (q : Query Shape) : '\n' ∉ q.text :=
  q.blank_not_mem_text rfl (by decide)

/-- A canonical text is no blank line. -/
theorem Query.text_trim_ne_nil (q : Query Shape) : q.text.trim ≠ [] := by
  have hopen : '(' ∈ q.text := by
    rw [text_eq]
    simp
  intro h
  have hblank := List.all_eq_true.1 (Text.trim_eq_nil_iff.1 h) '(' hopen
  cases hblank

end SpatialQuery
