import SpatialQuery.Proofs.Modifiers.Written
import SpatialQuery.Proofs.Query.Reachable

/-!
# What modifiers do to a query

`Modified` lists what can come of changing a query by modifiers: the bounds are looked at first,
then the keys, and of a query that is accepted it gives every field. `modify_eq_iff` says that this
is what comes of a new query when its fields are written one after the other, with the score on at
first and reset in the end, or left alone where nothing stands behind the shape.
`updatedBy_of_modified` says that the builders of the fields make the same query.
-/

namespace SpatialQuery

variable {ε S : Type}

namespace Modifiers

/-- The keys of all modifiers. -/
def knownKeys : List Text := ["cache".toList, "score".toList, "min".toList, "max".toList]

/-- What is left of modifiers when the known keys are taken out one after the other. -/
def unknown (m : Modifiers) : Modifiers :=
  (((m.erase cacheKey).erase scoreKey).erase Bound.min.key).erase Bound.max.key

/-- What modifiers set a flag to, if they speak of it: only the word `true` sets it, in any case of
its letters. -/
def SetsFlag (m : Modifiers) (key : Text) : Option Bool → Prop
  | some flag => ∃ value, m.get? key = some value ∧
      (flag = true ↔ value.map Char.toUpper = "TRUE".toList)
  | none => m.get? key = none

/-- What modifiers set a bound to, if they speak of it. -/
def SetsBound (m : Modifiers) (key : Text) : Option Binary64 → Prop
  | some x => ∃ value, m.get? key = some value ∧ Binary64.read value = .ok x
  | none => m.get? key = none

theorem flagValue_eq_true_iff {value : Text} :
    flagValue value = true ↔ value.map Char.toUpper = "TRUE".toList :=
  beq_iff_eq

theorem flagOr_of_setsFlag {m : Modifiers} {key : Text} {flag : Option Bool}
    (h : m.SetsFlag key flag) (other : Bool) : flagOr (m.get? key) other = flag.getD other := by
  cases flag with
  | none =>
      have hget : m.get? key = none := h
      rw [hget]
      rfl
  | some flag =>
      obtain ⟨value, hget, hflag⟩ := h
      rw [hget]
      exact Bool.eq_iff_iff.2 (flagValue_eq_true_iff.trans hflag.symm)

theorem exists_setsFlag (m : Modifiers) (key : Text) : ∃ flag, m.SetsFlag key flag := by
  cases hget : m.get? key with
  | none => exact ⟨none, hget⟩
  | some value => exact ⟨some (flagValue value), value, hget, flagValue_eq_true_iff⟩

theorem read_of_setsBound (bound : Bound) {m : Modifiers} {x : Option Binary64}
    (h : m.SetsBound bound.key x) :
    bound.read (m.get? bound.key) = (.ok x : Except (ParseError ε) _) := by
  unfold Bound.read
  cases x with
  | none =>
      have hget : m.get? bound.key = none := h
      rw [hget]
  | some x =>
      obtain ⟨value, hget, hread⟩ := h
      simp only [hget, hread]

theorem read_of_invalid (bound : Bound) {m : Modifiers} {value : Text} {cause : LiteralError}
    (hget : m.get? bound.key = some value) (hread : Binary64.read value = .error cause) :
    bound.read (m.get? bound.key) =
      (.error (.invalidNumber bound value cause) : Except (ParseError ε) _) := by
  unfold Bound.read
  simp only [hget, hread]

/-- A bound is set or left alone, or its value is no number. -/
theorem setsBound_or_invalid (m : Modifiers) (key : Text) :
    (∃ x, m.SetsBound key x) ∨
      ∃ value cause, m.get? key = some value ∧ Binary64.read value = .error cause := by
  cases hget : m.get? key with
  | none => exact .inl ⟨none, hget⟩
  | some value =>
      cases hread : Binary64.read value with
      | ok x => exact .inl ⟨some x, value, hget, hread⟩
      | error cause => exact .inr ⟨value, cause, rfl, hread⟩

theorem mem_keys_unknown_iff {m : Modifiers} {key : Text} :
    key ∈ m.unknown.keys ↔ key ∈ m.keys ∧ key ∉ knownKeys := by
  simp only [unknown, knownKeys, cacheKey, scoreKey, Bound.key, mem_keys_erase_iff, List.mem_cons,
    List.not_mem_nil, or_false, not_or, and_assoc]

/-- The keys of what is left are the only ascending list of keys that are bound and not known. -/
theorem keys_unknown_eq_iff {m : Modifiers} {keys : List Text} :
    m.unknown.keys = keys ↔
      keys.Pairwise (· < ·) ∧ ∀ key, key ∈ keys ↔ key ∈ m.keys ∧ key ∉ knownKeys := by
  constructor
  · rintro rfl
    exact ⟨pairwise_keys _, fun key => mem_keys_unknown_iff⟩
  · rintro ⟨hascending, hmem⟩
    have hantisymm : Std.Antisymm (fun s t : Text => s < t) :=
      ⟨fun _ _ hab hba => absurd hba (List.lt_asymm hab)⟩
    apply (pairwise_keys m.unknown).eq_of_mem_iff hascending
    intro key
    rw [mem_keys_unknown_iff, hmem]

theorem isEmpty_unknown_iff {m : Modifiers} :
    m.unknown.isEmpty = true ↔ ∀ key ∈ m.keys, key ∈ knownKeys := by
  rw [← keys_eq_nil_iff, keys_unknown_eq_iff]
  simp

end Modifiers

namespace Query

/-- What comes of changing a query by modifiers: a bound that is no number, the least one before
the greatest one, then the keys that are not known, in ascending order, and then a query. Its fields
are what the modifiers set them to, and those of the old query where they do not speak of them; a
score that is asked for is calculated if it has a meaning. -/
inductive Modified (m : Modifiers) (q : Query S) : Except (ParseError ε) (Query S) → Prop
  | invalidMin {value cause} (hget : m.get? "min".toList = some value)
      (hread : Binary64.read value = .error cause) :
      Modified m q (.error (.invalidNumber .min value cause))
  | invalidMax {min value cause} (hmin : m.SetsBound "min".toList min)
      (hget : m.get? "max".toList = some value) (hread : Binary64.read value = .error cause) :
      Modified m q (.error (.invalidNumber .max value cause))
  | unknownParameters {min max keys} (hmin : m.SetsBound "min".toList min)
      (hmax : m.SetsBound "max".toList max) (hne : keys ≠ []) (hascending : keys.Pairwise (· < ·))
      (hkeys : ∀ key, key ∈ keys ↔ key ∈ m.keys ∧ key ∉ Modifiers.knownKeys) :
      Modified m q (.error (.unknownParameters keys))
  | ok {cacheable calculateScore min max} (hmin : m.SetsBound "min".toList min)
      (hmax : m.SetsBound "max".toList max) (hkeys : ∀ key ∈ m.keys, key ∈ Modifiers.knownKeys)
      (hcacheable : m.SetsFlag "cache".toList cacheable)
      (hcalculateScore : m.SetsFlag "score".toList calculateScore) :
      Modified m q (.ok {
        operation := q.operation
        shape := q.shape
        cacheable := cacheable.getD q.cacheable
        calculateScore := (calculateScore.map (· && q.operation.scoreIsMeaningful)).getD
          q.calculateScore
        min := min.or q.min
        max := max.or q.max })

section Builders

/-- Calls the builders of the fields that are given, and no others. -/
def update (q : Query S) (cacheable calculateScore : Option Bool) (min max : Option Binary64) :
    Query S :=
  let q := cacheable.elim q q.withCacheable
  let q := calculateScore.elim q q.withCalculateScore
  let q := min.elim q fun x => q.withMin (some x)
  max.elim q fun x => q.withMax (some x)

/-- The builders of the fields that modifiers speak of make the one query of the other. -/
def UpdatedBy (m : Modifiers) (q r : Query S) : Prop :=
  ∃ cacheable calculateScore min max, m.SetsFlag "cache".toList cacheable ∧
    m.SetsFlag "score".toList calculateScore ∧ m.SetsBound "min".toList min ∧
    m.SetsBound "max".toList max ∧ r = q.update cacheable calculateScore min max

theorem update_eq (q : Query S) (cacheable calculateScore : Option Bool)
    (min max : Option Binary64) :
    q.update cacheable calculateScore min max = {
      operation := q.operation
      shape := q.shape
      cacheable := cacheable.getD q.cacheable
      calculateScore := (calculateScore.map (· && q.operation.scoreIsMeaningful)).getD
        q.calculateScore
      min := min.or q.min
      max := max.or q.max } := by
  cases cacheable <;> cases calculateScore <;> cases min <;> cases max <;> rfl

/-- Changing a query by modifiers is calling the builders of the fields that they speak of. -/
theorem updatedBy_of_modified {m : Modifiers} {q r : Query S}
    (h : Modified m q (.ok r : Except (ParseError ε) _)) : UpdatedBy m q r := by
  cases h with
  | @ok cacheable calculateScore min max hmin hmax _ hcacheable hcalculateScore =>
      exact ⟨cacheable, calculateScore, min, max, hcacheable, hcalculateScore, hmin, hmax,
        (update_eq q cacheable calculateScore min max).symm⟩

end Builders

theorem exists_modified (m : Modifiers) (q : Query S) :
    ∃ result : Except (ParseError ε) (Query S), Modified m q result := by
  rcases m.setsBound_or_invalid "min".toList with ⟨min, hmin⟩ | ⟨value, cause, hget, hread⟩
  · rcases m.setsBound_or_invalid "max".toList with ⟨max, hmax⟩ | ⟨value, cause, hget, hread⟩
    · by_cases hkeys : ∀ key ∈ m.keys, key ∈ Modifiers.knownKeys
      · obtain ⟨cacheable, hcacheable⟩ := m.exists_setsFlag "cache".toList
        obtain ⟨calculateScore, hcalculateScore⟩ := m.exists_setsFlag "score".toList
        exact ⟨_, .ok hmin hmax hkeys hcacheable hcalculateScore⟩
      · obtain ⟨hascending, hmem⟩ := Modifiers.keys_unknown_eq_iff.1 (rfl : m.unknown.keys = _)
        refine ⟨_, .unknownParameters hmin hmax (fun hnil => hkeys ?_) hascending hmem⟩
        exact Modifiers.isEmpty_unknown_iff.1 (Modifiers.keys_eq_nil_iff.1 hnil)
    · exact ⟨_, .invalidMax hmin hget hread⟩
  · exact ⟨_, .invalidMin hget hread⟩

section Fields

variable {operation : Operation} {shape : S} {tail : Text}

/-- Taking one key out does not change the value of another one, so all values are those that the
modifiers had at first. -/
theorem setFields_eq (q : Query S) (m : Modifiers) :
    q.setFields m = (do
      let min ← Bound.min.read (m.get? Bound.min.key)
      let max ← Bound.max.read (m.get? Bound.max.key)
      if m.unknown.isEmpty then
        return ⟨q.operation, q.shape, flagOr (m.get? cacheKey) q.cacheable,
          flagOr (m.get? scoreKey) true, min, max⟩
      throw (.unknownParameters m.unknown.keys) : Except (ParseError ε) (Query S)) := by
  have hdistinct : [cacheKey, scoreKey, Bound.min.key, Bound.max.key].Nodup := by decide
  simp only [List.nodup_cons, List.mem_cons, not_or] at hdistinct
  obtain ⟨⟨hscore, hmin, hmax, _⟩, ⟨hmin', hmax', _⟩, ⟨hmax'', _⟩, _⟩ := hdistinct
  unfold setFields Modifiers.take Modifiers.unknown
  simp only [Modifiers.get?_erase, if_neg (Ne.symm hscore), if_neg (Ne.symm hmin),
    if_neg (Ne.symm hmin'), if_neg (Ne.symm hmax), if_neg (Ne.symm hmax'),
    if_neg (Ne.symm hmax'')]

theorem resetScore_eq (q : Query S) :
    q.resetScore =
      { q with calculateScore := q.calculateScore && q.operation.scoreIsMeaningful } := by
  unfold resetScore
  cases q.operation.scoreIsMeaningful with
  | false => simp
  | true => simp

/-- Where nothing stands behind the shape, nothing but the score of a new query would be set, and it
is reset to what it was. -/
theorem modify_new (operation : Operation) (shape : S) (tail : Text) :
    (new operation shape).modify tail =
      (((new operation shape).setFields (.ofText tail)).map resetScore :
        Except (ParseError ε) _) := by
  unfold modify
  cases tail with
  | cons c tail => rfl
  | nil =>
      have hget : ∀ key, (Modifiers.ofText []).get? key = none := fun _ => rfl
      rw [setFields_eq]
      simp only [hget]
      change Except.ok (resetScore _) = Except.ok (resetScore _)
      rw [resetScore_eq, resetScore_eq]
      simp [new, flagOr]

theorem modify_of_modified {result : Except (ParseError ε) (Query S)}
    (h : Modified (.ofText tail) (new operation shape) result) :
    (new operation shape).modify tail = result := by
  rw [modify_new, setFields_eq]
  cases h with
  | invalidMin hget hread =>
      rw [Modifiers.read_of_invalid .min hget hread]
      rfl
  | invalidMax hmin hget hread =>
      rw [Modifiers.read_of_setsBound .min hmin, ok_bind, Modifiers.read_of_invalid .max hget hread]
      rfl
  | unknownParameters hmin hmax hne hascending hkeys =>
      obtain rfl := Modifiers.keys_unknown_eq_iff.2 ⟨hascending, hkeys⟩
      have hleft : ¬(Modifiers.ofText tail).unknown.isEmpty = true := fun h =>
        hne (Modifiers.keys_eq_nil_iff.2 h)
      rw [Modifiers.read_of_setsBound .min hmin, ok_bind, Modifiers.read_of_setsBound .max hmax,
        ok_bind, if_neg hleft]
      rfl
  | @ok cacheable calculateScore min max hmin hmax hkeys hcacheable hcalculateScore =>
      have hcache (other : Bool) : flagOr ((Modifiers.ofText tail).get? cacheKey) other =
          cacheable.getD other := Modifiers.flagOr_of_setsFlag hcacheable other
      have hscore (other : Bool) : flagOr ((Modifiers.ofText tail).get? scoreKey) other =
          calculateScore.getD other := Modifiers.flagOr_of_setsFlag hcalculateScore other
      rw [Modifiers.read_of_setsBound .min hmin, ok_bind, Modifiers.read_of_setsBound .max hmax,
        ok_bind, if_pos (Modifiers.isEmpty_unknown_iff.2 hkeys), hcache, hscore]
      change Except.ok (resetScore _) = _
      rw [resetScore_eq]
      cases calculateScore <;> simp [new]

theorem modified_modify (operation : Operation) (shape : S) (tail : Text) :
    Modified (.ofText tail) (new operation shape)
      ((new operation shape).modify tail : Except (ParseError ε) _) := by
  obtain ⟨result, h⟩ := exists_modified (.ofText tail) (new operation shape)
  rwa [modify_of_modified h]

/-- The fields of a new query become what the text behind its shape says. -/
theorem modify_eq_iff {result : Except (ParseError ε) (Query S)} :
    (new operation shape).modify tail = result ↔
      Modified (.ofText tail) (new operation shape) result := by
  constructor
  · rintro rfl
    exact modified_modify operation shape tail
  · exact modify_of_modified

theorem shape_of_modify {q : Query S}
    (h : (new operation shape).modify tail = (.ok q : Except (ParseError ε) _)) :
    q.shape = shape := by
  cases modify_eq_iff.1 h
  rfl

end Fields

end Query

end SpatialQuery
