import SpatialQuery.Proofs.Query.Canonical
import SpatialQuery.Proofs.Shape.Printed

/-!
# Queries over simple shapes

For simple shapes the reader is known, so nothing is left open: the canonical text of a query with
a well-formed shape is read back, and so is the canonical text of every query that was read, however
that one was written. Modifiers that are put behind a canonical text do what the builders do.
-/

namespace SpatialQuery.Query

open Modifiers

variable {q : Query Shape}

theorem exists_read_of_parse {t : Text} (h : parse Shape.read t = .ok q) :
    ∃ body, Shape.read body = .ok q.shape := by
  obtain ⟨⟨start, tail⟩, hstart, h⟩ := bind_eq_ok_iff.1 h
  obtain ⟨header, _, hread⟩ := bind_eq_ok_iff.1 hstart
  refine ⟨header.body, ?_⟩
  split at hread
  · next shape hshape =>
      cases hread
      rw [hshape, shape_of_modify h]
  · cases hread

theorem wellFormed_of_parse {t : Text} (h : parse Shape.read t = .ok q) : q.shape.WellFormed := by
  obtain ⟨body, hbody⟩ := exists_read_of_parse h
  exact Shape.wellFormed_of_read hbody

theorem trim_text_ne_nil (s : Shape) : (Geometry.text s).trim ≠ [] := by
  change s.text.trim ≠ []
  rw [Shape.trim_text]
  exact Shape.text_ne_nil s

theorem read_trim_text {s : Shape} (h : s.WellFormed) :
    Shape.read (Geometry.text s).trim = .ok s := by
  change Shape.read s.text.trim = .ok s
  rw [Shape.trim_text]
  exact Shape.read_text h

theorem parse_text_of_wellFormed (hq : q.ScoreRule) (h : q.shape.WellFormed) :
    parse Shape.read q.text = .ok q :=
  parse_text_of_shape hq (trim_text_ne_nil q.shape) (read_trim_text h)

/-- The canonical text of a query that was read is read as the same query, whatever the spelling it
was read from; only a bound that is `nan` keeps the two from being equal by value. -/
theorem parse_text_of_parse {t : Text} (h : parse Shape.read t = .ok q) :
    q.shape.WellFormed ∧
      ∃ r, parse Shape.read q.text = .ok r ∧ r.text = q.text ∧ r.operation = q.operation ∧
        r.cacheable = q.cacheable ∧ r.calculateScore = q.calculateScore ∧ r.shape = q.shape ∧
        (r.sameValue Shape.sameValue q = true ↔ q.min ≠ some .nan ∧ q.max ≠ some .nan) := by
  have hshape := wellFormed_of_parse h
  have hread := parse_text_of_wellFormed (scoreRule_of_parse h) hshape
  exact ⟨hshape, q, hread, rfl, rfl, rfl, rfl, rfl, sameValue_self_iff hshape.sameValue_self⟩

theorem parse_text_of_commas :
    ∃ q r,
      parse Shape.read "Distance ( circle(0,,-0 D=-0) )\nmax=inf min=x min=nan cache=no".toList =
        .ok q ∧
      parse Shape.read "Distance(CIRCLE(0 -0 d=-0)) cache=false min=NaN max=inf".toList = .ok r ∧
      r.text = q.text ∧ r.shape = q.shape ∧ r.sameValue Shape.sameValue q ≠ true := by
  let negativeZero : Binary64 := .finite true ⟨0, by decide⟩
  let q : Query Shape := ⟨.distance, .circle ⟨⟨.zero, negativeZero⟩, negativeZero⟩, false, true,
    some .nan, some (.infinite false)⟩
  have hq : parse Shape.read
      "Distance ( circle(0,,-0 D=-0) )\nmax=inf min=x min=nan cache=no".toList = .ok q := by
    decide +kernel
  have htext : q.text = "Distance(CIRCLE(0 -0 d=-0)) cache=false min=NaN max=inf".toList := by
    decide +kernel
  obtain ⟨_, r, hr, hcanonical, _, _, _, hshape, hsame⟩ := parse_text_of_parse hq
  rw [htext] at hr
  exact ⟨q, r, hq, hr, hcanonical, hshape, fun h => (hsame.1 h).1 rfl⟩

theorem parse_text_append_of_wellFormed (hq : q.ScoreRule) (h : q.shape.WellFormed) {t : Text}
    (ht : t.StartsApart isSeparator) (hclose : ')' ∉ t)
    (hblank : ∀ c ∈ t, Text.isBlank c = true → isSeparator c = true)
    {result : Except (ParseError ShapeError) (Query Shape)} :
    parse Shape.read (q.text ++ t) = result ↔ Modified (ofText t) q result :=
  parse_text_append_of_shape hq ht hclose hblank (trim_text_ne_nil q.shape) (read_trim_text h)

/-- Modifiers behind the canonical text of a query do to it what they say, and that is what the
builders of the fields do that they speak of. The modifiers of the canonical text itself are never
at fault. -/
theorem parse_text_append_eq_iff (hq : Reachable q) (h : q.shape.WellFormed) {c : Char} {t : Text}
    (hc : isSeparator c = true) (hclose : ')' ∉ c :: t)
    (hblank : ∀ d ∈ c :: t, Text.isBlank d = true → isSeparator d = true) :
    (∀ result, parse Shape.read (q.text ++ c :: t) = result ↔ Modified (ofText (c :: t)) q result) ∧
      ∀ r, parse Shape.read (q.text ++ c :: t) = .ok r → UpdatedBy (ofText (c :: t)) q r := by
  have hresult {result} : parse Shape.read (q.text ++ c :: t) = result ↔
      Modified (ofText (c :: t)) q result :=
    parse_text_append_of_wellFormed hq.scoreRule h (Text.startsApart_cons hc t) hclose hblank
  exact ⟨fun result => hresult, fun r hr => updatedBy_of_modified (hresult.1 hr)⟩

theorem parse_text_append_of_score :
    let q : Query Shape := (new .isEqualTo (.point ⟨.zero, .zero⟩)).withMin (some .nan)
    let r : Query Shape := (new .isEqualTo (.point ⟨.zero, .zero⟩)).withMin (some .zero)
    q.text ++ '\t' :: "score=true min=0".toList =
        "IsEqualTo(POINT(0 0)) min=NaN\tscore=true min=0".toList ∧
      parse Shape.read (q.text ++ '\t' :: "score=true min=0".toList) = .ok r ∧
      UpdatedBy (ofText ('\t' :: "score=true min=0".toList)) q r := by
  intro q r
  have hq : Reachable q := (Reachable.new .isEqualTo (Shape.point ⟨.zero, .zero⟩)).withMin _
  have hshape : q.shape.WellFormed := ⟨by decide, rfl⟩
  have hmin : (ofText ('\t' :: "score=true min=0".toList)).SetsBound "min".toList (some .zero) :=
    ⟨"0".toList, by decide +kernel, by decide +kernel⟩
  have hmax : (ofText ('\t' :: "score=true min=0".toList)).SetsBound "max".toList none := by
    change (ofText _).get? _ = none
    decide +kernel
  have hkeys : ∀ key ∈ (ofText ('\t' :: "score=true min=0".toList)).keys, key ∈ knownKeys := by
    decide +kernel
  have hcacheable : (ofText ('\t' :: "score=true min=0".toList)).SetsFlag "cache".toList none := by
    change (ofText _).get? _ = none
    decide +kernel
  have hscore : (ofText ('\t' :: "score=true min=0".toList)).SetsFlag "score".toList (some true) :=
    ⟨"true".toList, by decide +kernel, by decide +kernel⟩
  have hclose : ')' ∉ '\t' :: "score=true min=0".toList := by decide
  have hblank : ('\t' :: "score=true min=0".toList).all
      (fun c => !Text.isBlank c || isSeparator c) = true := by
    decide
  have htext : q.text ++ '\t' :: "score=true min=0".toList =
      "IsEqualTo(POINT(0 0)) min=NaN\tscore=true min=0".toList := by
    decide +kernel
  obtain ⟨hresult, hupdated⟩ := parse_text_append_eq_iff hq hshape rfl hclose
    (fun c hc hc' => by simpa [hc'] using List.all_eq_true.1 hblank c hc)
  have hparse := (hresult (.ok r)).2 (.ok hmin hmax hkeys hcacheable hscore)
  exact ⟨htext, hparse, hupdated r hparse⟩

end SpatialQuery.Query
