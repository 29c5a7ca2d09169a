import SpatialQuery.Proofs.Query.Printed

/-!
# Canonical texts are read back

The canonical text of a query that can be built is read as that query, whatever the geometries are
and whatever their texts hold: only the reader of geometries decides what becomes of the shape.
-/

namespace SpatialQuery.Query

open Modifiers

variable {ε S : Type}

theorem modified_nil (q : Query S) : Modified (ofText []) q (.ok q : Except (ParseError ε) _) := by
  have hunbound : ∀ key, (ofText []).SetsBound key none := fun _ => rfl
  have hunset : ∀ key, (ofText []).SetsFlag key none := fun _ => rfl
  have hknown : ∀ key ∈ (ofText []).keys, key ∈ knownKeys := by
    intro key hkey
    cases hkey
  exact .ok (hunbound _) (hunbound _) hknown (hunset _) (hunset _)

section Reading

variable [Geometry S] {reader : Reader ε S} {q : Query S}

theorem parse_text_append_of_blank {t : Text} (ht : ')' ∉ t)
    (hbody : (Geometry.text q.shape).trim = []) :
    parse reader (q.text ++ t) = .error (.missingBody (q.text ++ t)) :=
  parse_of_missingBody (splits_text_append q ht) (trim_name q.operation).symm hbody

theorem parse_text_append_of_refused {t : Text} {cause : ε} (ht : ')' ∉ t)
    (hbody : (Geometry.text q.shape).trim ≠ [])
    (hread : reader (Geometry.text q.shape).trim = .error cause) :
    parse reader (q.text ++ t) = .error (.invalidShape cause) :=
  parse_of_invalidShape (splits_text_append q ht) (trim_name q.operation).symm hbody hread

/-- Further modifiers behind a canonical text change the query that was printed. -/
theorem parse_text_append_of_shape (hq : q.ScoreRule) {t : Text} {shape : S}
    (ht : t.StartsApart isSeparator) (hclose : ')' ∉ t)
    (hblank : ∀ c ∈ t, Text.isBlank c = true → isSeparator c = true)
    (hbody : (Geometry.text q.shape).trim ≠ [])
    (hread : reader (Geometry.text q.shape).trim = .ok shape)
    {result : Except (ParseError ε) (Query S)} :
    parse reader (q.text ++ t) = result ↔
      Modified (ofText t) { q with shape := shape } result := by
  have hshape := parse_of_shape (splits_text_append q hclose) (trim_name q.operation).symm hbody
    hread
  rw [hshape]
  change (new q.operation shape).modify (q.printed ++ t).trim = result ↔ _
  rw [modify_eq_iff, ofText_trim_printed q hblank]
  exact modified_printed_iff hq shape ht

theorem parse_text_of_shape (hq : q.ScoreRule) {shape : S}
    (hbody : (Geometry.text q.shape).trim ≠ [])
    (hread : reader (Geometry.text q.shape).trim = .ok shape) :
    parse reader q.text = .ok { q with shape := shape } := by
  have happend : parse reader (q.text ++ []) = .ok { q with shape := shape } :=
    (parse_text_append_of_shape hq Text.startsApart_nil (by simp) (by simp) hbody hread).2
      (modified_nil _)
  rwa [List.append_nil] at happend

end Reading

theorem sameBound_self_iff (x : Option Binary64) : sameBound x x = true ↔ x ≠ some .nan := by
  cases x with
  | none => simp [sameBound]
  | some x => simp [sameBound, Binary64.sameValue_self]

/-- Numbers are compared by value, so `nan` is what keeps a query from being equal to itself. -/
theorem sameValue_self_iff {sameShape : S → S → Bool} {q : Query S} {shape : S}
    (h : sameShape shape q.shape = true) :
    ({ q with shape := shape } : Query S).sameValue sameShape q = true ↔
      q.min ≠ some .nan ∧ q.max ≠ some .nan := by
  rw [← sameBound_self_iff, ← sameBound_self_iff]
  simp [sameValue, h]

/-- The canonical text of a query that can be built is read as that query with the shape that the
reader makes of the text of the shape, and it is refused only if that text is blank or the reader
refuses it. Bounds are read back exactly, the sign of zero, infinities and `nan` included. -/
theorem parse_text [Geometry S] (reader : Reader ε S) {q : Query S} (hq : Reachable q) :
    (parse reader q.text =
      if (Geometry.text q.shape).trim = [] then .error (.missingBody q.text)
      else match reader (Geometry.text q.shape).trim with
        | .error cause => .error (.invalidShape cause)
        | .ok shape => .ok { q with shape := shape }) ∧
    ((Geometry.text q.shape).trim ≠ [] → reader (Geometry.text q.shape).trim = .ok q.shape →
      parse reader q.text = .ok q) ∧
    ∀ (sameShape : S → S → Bool) (shape : S), (Geometry.text q.shape).trim ≠ [] →
      reader (Geometry.text q.shape).trim = .ok shape → sameShape shape q.shape = true →
      q.min ≠ some .nan → q.max ≠ some .nan →
      ∃ r, parse reader q.text = .ok r ∧ r.sameValue sameShape q = true := by
  refine ⟨?_, ?_, ?_⟩
  · split
    · next hbody =>
        have hblank : parse reader (q.text ++ []) = _ := parse_text_append_of_blank (by simp) hbody
        rwa [List.append_nil] at hblank
    · next hbody =>
        split
        · next cause hread =>
            have hrefused := parse_text_append_of_refused (t := []) (by simp) hbody hread
            rwa [List.append_nil] at hrefused
        · next shape hread => exact parse_text_of_shape hq.scoreRule hbody hread
  · intro hbody hread
    exact parse_text_of_shape hq.scoreRule hbody hread
  · intro sameShape shape hbody hread hsame hmin hmax
    refine ⟨{ q with shape := shape }, parse_text_of_shape hq.scoreRule hbody hread, ?_⟩
    exact (sameValue_self_iff hsame).2 ⟨hmin, hmax⟩

/-- Texts as geometries that are written as they are. -/
abbrev verbatim : Geometry Text := ⟨fun _ => false, id⟩

theorem parse_text_of_unbalanced :
    ∃ q : Query Text, Reachable q ∧
      @text Text verbatim q = "Overlaps() min=1 ((score) cache=false min=-0 max=inf".toList ∧
      parse (fun t => (.ok t : Except Unit Text)) (@text Text verbatim q) = .ok q := by
  have hq := (((Reachable.new .overlaps ") min=1 ((score".toList).withCacheable false).withMin
    (some (.finite true ⟨0, by decide⟩))).withMax (some (.infinite false))
  refine ⟨_, hq, ?_, (@parse_text Unit Text verbatim _ _ hq).2.1 ?_ ?_⟩
  · decide +kernel
  · decide +kernel
  · rfl

end SpatialQuery.Query
