import SpatialQuery.Proofs.Query.Reachable

/-!
# Runs of changes

A query is changed by calls of the functions that build queries, one field after another. Later
calls override earlier ones of the same kind and leave the other fields alone, so a run of changes
comes to what the last call of each kind says.

The functions that build queries also tell which queries there are: the rule of the score is all
that keeps a query from being built, read or decoded.
-/

namespace SpatialQuery.Query

variable {S α : Type}

/-- A call of a function that changes a query. -/
inductive Change where
  /-- Says whether the answer may be kept in a cache. -/
  | cacheable (value : Bool)
  /-- Says whether matches get a score. -/
  | calculateScore (value : Bool)
  /-- Sets or removes the least distance. -/
  | min (value : Option Binary64)
  /-- Sets or removes the greatest distance. -/
  | max (value : Option Binary64)
deriving DecidableEq

namespace Change

/-- What comes of a call. -/
def appliedTo (q : Query S) : Change → Query S
  | cacheable value => q.withCacheable value
  | calculateScore value => q.withCalculateScore value
  | min value => q.withMin value
  | max value => q.withMax value

/-- What a change says on the cache. -/
def cacheable? : Change → Option Bool
  | cacheable value => some value
  | _ => none

/-- What a change says on the score. -/
def calculateScore? : Change → Option Bool
  | calculateScore value => some value
  | _ => none

/-- What a change says on the least distance. -/
def min? : Change → Option (Option Binary64)
  | min value => some value
  | _ => none

/-- What a change says on the greatest distance. -/
def max? : Change → Option (Option Binary64)
  | max value => some value
  | _ => none

/-- What the last of the changes that speak of a field says on it. -/
def last? (field? : Change → Option α) (changes : List Change) : Option α :=
  (changes.filterMap field?).getLast?

/-- One more change at the end counts if it speaks of the field. -/
theorem last?_concat (field? : Change → Option α) (changes : List Change) (change : Change) :
    last? field? (changes ++ [change]) = (field? change).or (last? field? changes) := by
  unfold last?
  rw [List.filterMap_append, List.getLast?_append]
  cases hfield : field? change with
  | none => rw [List.filterMap_cons_none hfield]; rfl
  | some value => rw [List.filterMap_cons_some hfield]; rfl

end Change

/-- What comes of a run of calls, the first one being made first. -/
def changed (q : Query S) (changes : List Change) : Query S := changes.foldl Change.appliedTo q

/-- What the last change of each kind makes of a query. A score that is asked for last is
calculated if it has a meaning. -/
def withLast (q : Query S) (changes : List Change) : Query S where
  operation := q.operation
  shape := q.shape
  cacheable := (Change.last? Change.cacheable? changes).getD q.cacheable
  calculateScore := ((Change.last? Change.calculateScore? changes).map
    (· && q.operation.scoreIsMeaningful)).getD q.calculateScore
  min := (Change.last? Change.min? changes).getD q.min
  max := (Change.last? Change.max? changes).getD q.max

theorem changed_concat (q : Query S) (changes : List Change) (change : Change) :
    q.changed (changes ++ [change]) = change.appliedTo (q.changed changes) := by
  unfold changed
  rw [List.foldl_append]
  rfl

/-- A run of changes depends on nothing but its start and the last change of each kind. -/
theorem changed_eq_withLast (q : Query S) (changes : List Change) :
    q.changed changes = q.withLast changes := by
  induction changes using List.reverseRecOn with
  | nil => rfl
  | append_singleton changes change ih =>
      rw [changed_concat, ih]
      unfold withLast
      simp only [Change.last?_concat]
      cases change with
      | cacheable value => rfl
      | calculateScore value => rfl
      | min value => rfl
      | max value => rfl

theorem Reachable.appliedTo {q : Query S} (h : Reachable q) (change : Change) :
    Reachable (change.appliedTo q) := by
  cases change with
  | cacheable value => exact h.withCacheable value
  | calculateScore value => exact h.withCalculateScore value
  | min value => exact h.withMin value
  | max value => exact h.withMax value

theorem Reachable.changed {q : Query S} (h : Reachable q) (changes : List Change) :
    Reachable (q.changed changes) := by
  induction changes generalizing q with
  | nil => exact h
  | cons change changes ih => exact ih (h.appliedTo change)

/-- The builders make a query that keeps the rule of the score from its own fields. -/
theorem ScoreRule.eq_rebuilt {q : Query S} (h : q.ScoreRule) :
    q = ((((new q.operation q.shape).withCacheable q.cacheable).withCalculateScore
      q.calculateScore).withMin q.min).withMax q.max := by
  have hscore := h.and_eq
  simp only [new, withCacheable, withCalculateScore, withMin, withMax, hscore]

/-- Every query that keeps the rule of the score can be built. -/
theorem reachable_iff_scoreRule {q : Query S} : Reachable q ↔ q.ScoreRule := by
  constructor
  · exact Reachable.scoreRule
  · intro h
    have hnew := Reachable.new q.operation q.shape
    rw [h.eq_rebuilt]
    exact (((hnew.withCacheable _).withCalculateScore _).withMin _).withMax _

/-- However a query came about, it calculates a score only if that has a meaning, and the builders
make it from its own fields. This stays so under every run of changes, and such a run comes to what
the last change of each kind says. -/
theorem rule_and_rebuilt_and_changed_of_reachable {q : Query S} (h : Reachable q) :
    (q.calculateScore = true → q.operation.scoreIsMeaningful = true) ∧
      q = ((((new q.operation q.shape).withCacheable q.cacheable).withCalculateScore
        q.calculateScore).withMin q.min).withMax q.max ∧
      ∀ changes : List Change,
        Reachable (q.changed changes) ∧ q.changed changes = q.withLast changes := by
  refine ⟨h.scoreRule, h.scoreRule.eq_rebuilt, fun changes => ?_⟩
  exact ⟨h.changed changes, changed_eq_withLast q changes⟩

theorem changed_of_isEqualTo :
    ∃ q : Query Shape,
      parse Shape.read "IsEqualTo(0 0) score=true min=NaN cache=no".toList = .ok q ∧
        q.calculateScore = false ∧
        q.changed [.calculateScore true, .cacheable false, .max (some .zero), .cacheable true,
          .max none] = ⟨.isEqualTo, .point ⟨.zero, .zero⟩, true, false, some .nan, none⟩ := by
  let q : Query Shape := ⟨.isEqualTo, .point ⟨.zero, .zero⟩, false, false, some .nan, none⟩
  have hq : parse Shape.read "IsEqualTo(0 0) score=true min=NaN cache=no".toList = .ok q := by
    decide +kernel
  obtain ⟨hrule, _, hchanged⟩ := rule_and_rebuilt_and_changed_of_reachable (.parse hq)
  exact ⟨q, hq, Bool.eq_false_iff.2 fun h => absurd (hrule h) (by decide), (hchanged _).2⟩

end SpatialQuery.Query
