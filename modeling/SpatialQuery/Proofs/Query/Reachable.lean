import SpatialQuery.Proofs.Stored.Forms
import SpatialQuery.Query.Parse

/-!
# Queries that can be built

A query comes from an operation and a shape, from a text, or from a stored value, and is changed
field by field after that. However it came about, it calculates a score only if that has a
meaning.
-/

namespace SpatialQuery.Query

variable {ε S : Type}

/-- A query calculates a score only if the score of its operation has a meaning. -/
def ScoreRule (q : Query S) : Prop :=
  q.calculateScore = true → q.operation.scoreIsMeaningful = true

/-- The queries that come out of building, reading and decoding, with any reader of geometries and
any decoder of shapes. -/
inductive Reachable : Query S → Prop
  | new (operation : Operation) (shape : S) : Reachable (new operation shape)
  | withCacheable {q} (h : Reachable q) (cacheable : Bool) : Reachable (q.withCacheable cacheable)
  | withCalculateScore {q} (h : Reachable q) (calculateScore : Bool) :
      Reachable (q.withCalculateScore calculateScore)
  | withMin {q} (h : Reachable q) (min : Option Binary64) : Reachable (q.withMin min)
  | withMax {q} (h : Reachable q) (max : Option Binary64) : Reachable (q.withMax max)
  | parse {ε : Type} {reader : Reader ε S} {t : Text} {q} (h : parse reader t = .ok q) : Reachable q
  | decode {decodeShape : Stored.Decoder S} {v : Stored.Value} {q}
      (h : decode decodeShape v = .ok q) : Reachable q

theorem scoreRule_new (operation : Operation) (shape : S) : (new operation shape).ScoreRule := id

theorem scoreRule_withCalculateScore (q : Query S) (calculateScore : Bool) :
    (q.withCalculateScore calculateScore).ScoreRule := by
  intro h
  exact (Bool.and_eq_true _ _ ▸ h : _ ∧ _).2

theorem ScoreRule.and_eq {q : Query S} (h : q.ScoreRule) :
    (q.calculateScore && q.operation.scoreIsMeaningful) = q.calculateScore := by
  cases hq : q.calculateScore with
  | false => rfl
  | true => exact h hq

theorem scoreRule_resetScore (q : Query S) : q.resetScore.ScoreRule := by
  unfold resetScore
  split
  · next hmeaningful => exact fun _ => hmeaningful
  · intro h
    cases h

/-- The fields that are written in between may break the rule, whatever the query was before, but
the score is reset in the end. -/
theorem scoreRule_of_modify {q r : Query S} {tail : Text}
    (h : q.modify tail = (.ok r : Except (ParseError ε) _)) : r.ScoreRule := by
  obtain ⟨written, _, rfl⟩ := map_eq_ok_iff.1 h
  exact scoreRule_resetScore written

theorem scoreRule_of_parse {reader : Reader ε S} {t : Text} {q : Query S}
    (h : parse reader t = .ok q) : q.ScoreRule := by
  obtain ⟨_, _, h⟩ := bind_eq_ok_iff.1 h
  exact scoreRule_of_modify h

theorem scoreRule_ofStored (operation : Operation) (shape : S) (cacheable calculateScore : Bool)
    (min max : Option Binary64) :
    (ofStored operation shape cacheable calculateScore min max).ScoreRule :=
  scoreRule_withCalculateScore _ _

theorem scoreRule_of_decode {decodeShape : Stored.Decoder S} {v : Stored.Value} {q : Query S}
    (h : decode decodeShape v = .ok q) : q.ScoreRule := by
  have hmade : ∀ {items}, ofItems decodeShape items = .ok q → q.ScoreRule := by
    intro items h
    cases ofItems_eq_ok_iff.1 h with
    | intro _ _ _ _ _ _ => exact scoreRule_ofStored _ _ _ _ _ _
  cases v with
  | object fields => exact hmade (ofFields_eq_ok_iff.1 h).2
  | array items => exact hmade h
  | _ => cases h

theorem Reachable.scoreRule {q : Query S} (h : Reachable q) : q.ScoreRule := by
  induction h with
  | new operation shape => exact scoreRule_new operation shape
  | withCacheable _ _ ih => exact ih
  | withCalculateScore _ calculateScore _ => exact scoreRule_withCalculateScore _ calculateScore
  | withMin _ _ ih => exact ih
  | withMax _ _ ih => exact ih
  | parse h => exact scoreRule_of_parse h
  | decode h => exact scoreRule_of_decode h

end SpatialQuery.Query
