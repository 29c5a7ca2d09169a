import SpatialQuery.Proofs.Query.Canonical
import SpatialQuery.Proofs.Stored.Shape

/-!
# Stored queries are read back

The storage format has no number that is not finite. A query loses the bounds that are not finite
when it is stored, and nothing else; a query whose shape holds such a number is refused when it is
read back. A query that was read from a stored value holds no such number, so it can be stored and
read back as often as one likes.
-/

namespace SpatialQuery

open Stored

theorem Operation.decode_variantName (operation : Operation) :
    decode (.text operation.variantName) = .ok operation :=
  decode_eq_ok_iff.2 ⟨operation.name, .inl (by rw [variantName_eq_name]), ofName?_name operation⟩

namespace Query

variable {S : Type}

/-- The query that is left when bounds that are not finite are lost. -/
def withoutInfiniteBounds (q : Query S) : Query S :=
  { q with min := q.min.filter Binary64.isFinite, max := q.max.filter Binary64.isFinite }

section Encoded

variable {encodeShape : S → Value} {decodeShape : Decoder S} {q : Query S}

/-- A query that keeps the rule of the score is built again by what its fields say. -/
theorem ScoreRule.ofStored_eq (hq : q.ScoreRule) (min max : Option Binary64) :
    ofStored q.operation q.shape q.cacheable q.calculateScore min max =
      { q with min := min, max := max } := by
  have hscore := hq.and_eq
  simp only [ofStored, new, withCacheable, withCalculateScore, withMin, withMax, hscore]

/-- All that decides whether a stored query is read back is the decoder of its shape. -/
theorem decode_encode_eq (hq : q.ScoreRule) :
    decode decodeShape (q.encode encodeShape) =
      (decodeShape (encodeShape q.shape)).map
        fun shape => { q.withoutInfiniteBounds with shape := shape } := by
  let fields : List (Text × Value) :=
    [(operationName, .text q.operation.variantName), (shapeName, encodeShape q.shape),
      (cacheableName, .bool q.cacheable), (calculateScoreName, .bool q.calculateScore),
      (minName, .ofOptional q.min), (maxName, .ofOptional q.max)]
  have hoperation : fields.lookup operationName = some (.text q.operation.variantName) := rfl
  have hshape : fields.lookup shapeName = some (encodeShape q.shape) := rfl
  have hcacheable : fields.lookup cacheableName = some (.bool q.cacheable) := rfl
  have hscore : fields.lookup calculateScoreName = some (.bool q.calculateScore) := rfl
  have hmin : fields.lookup minName = some (.ofOptional q.min) := rfl
  have hmax : fields.lookup maxName = some (.ofOptional q.max) := rfl
  change ofFields decodeShape fields = _
  unfold ofFields
  rw [Decoder.field?_of_lookup hcacheable, Decoder.field?_of_lookup hscore,
    Decoder.field?_of_lookup hmax, Decoder.field?_of_lookup hmin,
    Decoder.field?_of_lookup hoperation, Decoder.field?_of_lookup hshape,
    Operation.decode_variantName, Decoder.optional_number_ofOptional,
    Decoder.optional_number_ofOptional]
  cases decodeShape (encodeShape q.shape) with
  | error e => rfl
  | ok shape =>
      have hrule : ({ q with shape := shape } : Query S).ScoreRule := hq
      exact congrArg Except.ok (hrule.ofStored_eq _ _)

end Encoded

/-- No bound is lost exactly if every bound is finite. -/
theorem sameBound_filter_iff (x : Option Binary64) :
    sameBound (x.filter Binary64.isFinite) x = true ↔ ∀ y ∈ x, y.isFinite = true := by
  cases x with
  | none => simp [sameBound]
  | some x =>
      cases hfinite : x.isFinite with
      | false =>
          rw [Option.filter_some_neg hfinite]
          simp [sameBound, hfinite]
      | true =>
          rw [Option.filter_some_pos hfinite]
          simp [sameBound, hfinite, Binary64.sameValue_self_of_isFinite]

/-- What is left of a query when bounds are lost says the same as the query only if none was. -/
theorem sameValue_withoutInfiniteBounds_iff {sameShape : S → S → Bool} {q : Query S}
    (h : sameShape q.shape q.shape = true) :
    q.withoutInfiniteBounds.sameValue sameShape q = true ↔
      (∀ x ∈ q.min, x.isFinite = true) ∧ ∀ x ∈ q.max, x.isFinite = true := by
  rw [← sameBound_filter_iff, ← sameBound_filter_iff]
  simp [sameValue, withoutInfiniteBounds, h]

section Decoded

variable {decodeShape : Decoder S} {P : S → Prop}

/-- A query with finite bounds, over a shape with a property. -/
structure Finite (P : S → Prop) (q : Query S) : Prop where
  shape : P q.shape
  min : ∀ x ∈ q.min, x.isFinite = true
  max : ∀ x ∈ q.max, x.isFinite = true

theorem yields_decode (hdecode : decodeShape.Yields P) :
    (decode decodeShape).Yields (Finite P) := by
  refine Decoder.yields_of_items (fun _ _ => ofFields_eq_ok_iff) ?_
  intro items hitems q h
  cases ofItems_eq_ok_iff.1 h with
  | intro _ hshape _ _ hmin hmax =>
      simp only [List.forall_mem_cons] at hitems
      obtain ⟨_, hstoredShape, _, _, hstoredMin, hstoredMax, _⟩ := hitems
      exact ⟨hdecode _ hstoredShape _ hshape, Decoder.yields_number.optional _ hstoredMin _ hmin,
        Decoder.yields_number.optional _ hstoredMax _ hmax⟩

end Decoded

theorem filter_eq_self {x : Option Binary64} (h : ∀ y ∈ x, y.isFinite = true) :
    x.filter Binary64.isFinite = x := by
  cases x with
  | none => rfl
  | some y => exact Option.filter_some_pos (h y rfl)

theorem withoutInfiniteBounds_eq_self {P : S → Prop} {q : Query S} (h : q.Finite P) :
    q.withoutInfiniteBounds = q := by
  unfold withoutInfiniteBounds
  rw [filter_eq_self h.min, filter_eq_self h.max]

section Simple

variable {q : Query Shape}

theorem decode_encode_of_finite (hq : q.ScoreRule) (h : q.shape.isFinite = true) :
    decode Shape.decode (q.encode Shape.encode) = .ok q.withoutInfiniteBounds := by
  rw [decode_encode_eq hq, Shape.decode_encode, if_pos h]
  rfl

theorem decode_encode_of_not_finite (hq : q.ScoreRule) (h : ¬q.shape.isFinite = true) :
    decode Shape.decode (q.encode Shape.encode) = .error .invalidType := by
  rw [decode_encode_eq hq, Shape.decode_encode, if_neg h]
  rfl

/-- What is written for a query is a value of the storage format, whatever its numbers are. -/
theorem storable_encode (q : Query Shape) : Storable (q.encode Shape.encode) := by
  apply Storable.object
  simp [Shape.storable_encode, storable_ofOptional, Storable.text, Storable.bool]

/-- A query that was read from a stored value is stored and read back without loss. -/
theorem decode_encode_of_decode {v : Value} (hv : Storable v)
    (h : decode Shape.decode v = .ok q) :
    decode Shape.decode (q.encode Shape.encode) = .ok q := by
  have hfinite := yields_decode Shape.yields_decode v hv q h
  rw [decode_encode_of_finite (scoreRule_of_decode h) hfinite.shape,
    withoutInfiniteBounds_eq_self hfinite]

end Simple

/-- A query that can be built is stored as a value of the storage format. If the numbers of its
shape are finite, that value is read back, and nothing is changed but that bounds which are not
finite are gone; otherwise it is refused. What was read from a value of the storage format is
stored and read back as it is. -/
theorem decode_encode_of_reachable :
    (∀ q : Query Shape, Reachable q →
      Storable (q.encode Shape.encode) ∧
      ((∀ x ∈ q.shape.numbers, x.isFinite = true) →
        ∃ r, decode Shape.decode (q.encode Shape.encode) = .ok r ∧
          r.operation = q.operation ∧ r.shape = q.shape ∧ r.cacheable = q.cacheable ∧
          r.calculateScore = q.calculateScore ∧ r.min = q.min.filter Binary64.isFinite ∧
          r.max = q.max.filter Binary64.isFinite ∧
          (r.sameValue Shape.sameValue q = true ↔
            (∀ x ∈ q.min, x.isFinite = true) ∧ ∀ x ∈ q.max, x.isFinite = true)) ∧
      ((∃ x ∈ q.shape.numbers, x.isFinite = false) →
        decode Shape.decode (q.encode Shape.encode) = .error .invalidType)) ∧
    ∀ v, Storable v → ∀ q : Query Shape, decode Shape.decode v = .ok q →
      decode Shape.decode (q.encode Shape.encode) = .ok q := by
  constructor
  · intro q hq
    refine ⟨storable_encode q, fun hfinite => ?_, fun ⟨x, hx, hinfinite⟩ => ?_⟩
    · have hread := decode_encode_of_finite hq.scoreRule (Shape.isFinite_iff.2 hfinite)
      have hself := Shape.sameValue_self_of_finite hfinite
      exact ⟨_, hread, rfl, rfl, rfl, rfl, rfl, rfl, sameValue_withoutInfiniteBounds_iff hself⟩
    · apply decode_encode_of_not_finite hq.scoreRule
      intro hfinite
      rw [Shape.isFinite_iff.1 hfinite x hx] at hinfinite
      cases hinfinite
  · intro v hv q h
    exact decode_encode_of_decode hv h

theorem decode_encode_of_nan :
    let bounded : Query Shape :=
      ((new .distance (.point ⟨.zero, .zero⟩)).withMin (some .nan)).withMax (some .zero)
    let reversed : Query Shape :=
      ((new .distance (.point ⟨.zero, .zero⟩)).withMin (some .zero)).withMax (some (.infinite true))
    let refused : Query Shape := new .distance (.point ⟨.zero, .nan⟩)
    let items : Value := .array [.text Operation.isEqualTo.name,
      (Shape.point ⟨.zero, .zero⟩).encode, .bool true, .bool true, .null, .number .zero]
    (∃ r, decode Shape.decode (bounded.encode Shape.encode) = .ok r ∧ r.min = none ∧
      r.max = some .zero) ∧
    (∃ r, decode Shape.decode (reversed.encode Shape.encode) = .ok r ∧ r.min = some .zero ∧
      r.max = none) ∧
    decode Shape.decode (refused.encode Shape.encode) = .error .invalidType ∧
    ∃ r, decode Shape.decode items = .ok r ∧ r.calculateScore = false ∧
      decode Shape.decode (r.encode Shape.encode) = .ok r := by
  intro bounded reversed refused items
  have hbounded : Reachable bounded := ((Reachable.new _ _).withMin _).withMax _
  have hreversed : Reachable reversed := ((Reachable.new _ _).withMin _).withMax _
  have hzero : ∀ x ∈ bounded.shape.numbers, x.isFinite = true := by decide
  have hnan : ∃ x ∈ refused.shape.numbers, x.isFinite = false := ⟨.nan, by decide, rfl⟩
  have hstored : Storable items := by
    have hnumber : Storable (.number .zero) := .number rfl
    apply Storable.array
    simp [Storable.text, Storable.bool, Storable.null, Shape.storable_encode, hnumber]
  have hread : decode Shape.decode items =
      .ok ⟨.isEqualTo, .point ⟨.zero, .zero⟩, true, false, none, some .zero⟩ := by
    decide +kernel
  refine ⟨?_, ?_, ?_, ?_⟩
  · obtain ⟨r, hr, _, _, _, _, hmin, hmax, _⟩ :=
      (decode_encode_of_reachable.1 bounded hbounded).2.1 hzero
    exact ⟨r, hr, hmin, hmax⟩
  · obtain ⟨r, hr, _, _, _, _, hmin, hmax, _⟩ :=
      (decode_encode_of_reachable.1 reversed hreversed).2.1 hzero
    exact ⟨r, hr, hmin, hmax⟩
  · exact (decode_encode_of_reachable.1 refused (.new _ _)).2.2 hnan
  · exact ⟨_, hread, rfl, decode_encode_of_reachable.2 items hstored _ hread⟩

end Query

end SpatialQuery
