import SpatialQuery.Proofs.Number.Characters
import SpatialQuery.Proofs.Query.Grammar

/-!
# The modifiers that a canonical text lists

The modifiers behind the shape of a canonical text bind the fields that differ from a query of
which nothing was said. `modified_printed_iff` says what this comes to for a reader: the printed
modifiers, followed by any others, do to a new query what the others alone do to the query that
was printed.
-/

namespace SpatialQuery

variable {ε S : Type}

theorem isSeparator_of_isRunChar {c : Char} (h : isRunChar c = true) :
    Modifiers.isSeparator c = false := by
  cases hseparator : Modifiers.isSeparator c with
  | false => rfl
  | true =>
      have hblank := (isRunChar_iff.1 h).2
      simp only [Modifiers.isSeparator, Bool.or_eq_true, beq_iff_eq] at hseparator
      rcases hseparator with (rfl | rfl) | rfl <;> cases hblank

namespace Modifiers

theorem ne_nil_of_mem_knownKeys : ∀ name ∈ knownKeys, name ≠ [] := by decide

theorem equals_not_mem_of_mem_knownKeys : ∀ name ∈ knownKeys, '=' ∉ name := by decide

theorem isRunChar_of_mem_knownKeys {name : Text} (h : name ∈ knownKeys) :
    ∀ c ∈ name, isRunChar c = true := by
  have hall : ∀ key ∈ knownKeys, key.all isRunChar = true := by decide
  exact List.all_eq_true.1 (hall name h)

theorem isRunChar_of_mem_false : ∀ c ∈ "false".toList, isRunChar c = true :=
  List.all_eq_true.1 (by decide)

/-- A modifier of one run on each side of its equals sign binds its key and nothing else. -/
theorem get?_ofText_pair {name value : Text} (hname : name ∈ knownKeys)
    (hvalue : ∀ c ∈ value, isRunChar c = true) (key : Text) :
    (ofText (' ' :: name ++ '=' :: value)).get? key = if key = name then some value else none := by
  have hfree : ∀ c ∈ name ++ '=' :: value, isSeparator c = false := by
    intro c hc
    rcases List.mem_append.1 hc with hc | hc
    · exact isSeparator_of_isRunChar (isRunChar_of_mem_knownKeys hname c hc)
    · rcases List.mem_cons.1 hc with rfl | hc
      · rfl
      · exact isSeparator_of_isRunChar (hvalue c hc)
  have hfields : Text.fields isSeparator (' ' :: name ++ '=' :: value) =
      [name ++ '=' :: value] := by
    rw [List.cons_append, Text.fields_cons_of_separates rfl,
      Text.fields_of_piece (by simp) hfree]
  have htoken : Binding.ofToken (name ++ '=' :: value) = (name, value) := by
    apply Binding.ofToken_eq_iff.2
    exact .pair (ne_nil_of_mem_knownKeys name hname) (equals_not_mem_of_mem_knownKeys name hname)
  unfold ofText ofTokens
  rw [hfields, List.foldl_cons, List.foldl_nil, htoken]
  exact get?_insert _ _ _

end Modifiers

namespace Query

open Modifiers

theorem get?_flagText {name : Text} (hname : name ∈ knownKeys) (flag : Bool) (key : Text) :
    (ofText (flagText name flag)).get? key =
      if key = name then (if flag then none else some "false".toList) else none := by
  cases flag with
  | false => exact get?_ofText_pair hname isRunChar_of_mem_false key
  | true =>
      rw [if_pos rfl, ite_self]
      rfl

theorem get?_boundText {name : Text} (hname : name ∈ knownKeys) (x : Option Binary64)
    (key : Text) :
    (ofText (boundText name x)).get? key = if key = name then x.map Binary64.text else none := by
  cases x with
  | none =>
      rw [Option.map_none, ite_self]
      rfl
  | some x => exact get?_ofText_pair hname (fun _ hc => Binary64.isRunChar_of_mem_text hc) key

theorem startsApart_flagText (name : Text) (flag : Bool) :
    (flagText name flag).StartsApart isSeparator := by
  cases flag with
  | false => exact Text.startsApart_cons rfl _
  | true => exact Text.startsApart_nil

theorem startsApart_boundText (name : Text) (x : Option Binary64) :
    (boundText name x).StartsApart isSeparator := by
  cases x with
  | none => exact Text.startsApart_nil
  | some x => exact Text.startsApart_cons rfl _

/-- The modifiers in the canonical text of a query. -/
def printed (q : Query S) : Text :=
  flagText cacheKey q.cacheable ++
    flagText scoreKey (q.calculateScore || !q.operation.scoreIsMeaningful) ++
    boundText Bound.min.key q.min ++ boundText Bound.max.key q.max

theorem text_eq [Geometry S] (q : Query S) :
    q.text = q.operation.name ++ '(' :: (Geometry.text q.shape ++ ')' :: q.printed) := by
  unfold text printed
  simp only [List.append_assoc, List.cons_append, List.nil_append]
  rfl

theorem get?_printed (q : Query S) (key : Text) :
    (ofText q.printed).get? key =
      if key = cacheKey then (if q.cacheable then none else some "false".toList)
      else if key = scoreKey then
        (if q.calculateScore || !q.operation.scoreIsMeaningful then none
        else some "false".toList)
      else if key = Bound.min.key then q.min.map Binary64.text
      else if key = Bound.max.key then q.max.map Binary64.text
      else none := by
  have hdistinct : [cacheKey, scoreKey, Bound.min.key, Bound.max.key].Nodup := by decide
  simp only [List.nodup_cons, List.mem_cons, not_or] at hdistinct
  unfold printed
  rw [get?_ofText_append _ (startsApart_boundText _ _),
    get?_ofText_append _ (startsApart_boundText _ _),
    get?_ofText_append _ (startsApart_flagText _ _), get?_boundText (by decide),
    get?_boundText (by decide), get?_flagText (by decide), get?_flagText (by decide)]
  by_cases hcache : key = cacheKey
  · simp [hcache, hdistinct]
  by_cases hscore : key = scoreKey
  · simp [hscore, hdistinct, Ne.symm hdistinct.1.1]
  by_cases hmin : key = Bound.min.key
  · simp [hmin, hdistinct, Ne.symm hdistinct.1.2.1, Ne.symm hdistinct.2.1.1]
  simp [hcache, hscore, hmin]

theorem get?_printed_of_not_mem (q : Query S) {key : Text} (hkey : key ∉ knownKeys) :
    (ofText q.printed).get? key = none := by
  have hother : key ∉ [cacheKey, scoreKey, Bound.min.key, Bound.max.key] := hkey
  simp only [List.mem_cons, not_or] at hother
  rw [get?_printed, if_neg hother.1, if_neg hother.2.1, if_neg hother.2.2.1,
    if_neg hother.2.2.2.1]

end Query

namespace Modifiers

/-- A bound that was printed and not set again is what it was. -/
theorem setsBound_of_get?_eq {m n : Modifiers} {key : Text} {x printed : Option Binary64}
    (hget : m.get? key = (n.get? key).or (printed.map Binary64.text))
    (h : n.SetsBound key x) : m.SetsBound key (x.or printed) := by
  cases x with
  | some x =>
      obtain ⟨value, hvalue, hread⟩ := h
      exact ⟨value, by rw [hget, hvalue, Option.some_or], hread⟩
  | none =>
      have hnone : n.get? key = none := h
      rw [hnone, Option.none_or] at hget
      cases printed with
      | none => exact hget
      | some x => exact ⟨x.text, hget, Binary64.read_text x⟩

/-- A flag that was printed as off, and not set again, is off. -/
theorem setsFlag_of_get?_eq {m n : Modifiers} {key : Text} {flag : Option Bool} {printed : Bool}
    (hget : m.get? key = (n.get? key).or (if printed then none else some "false".toList))
    (h : n.SetsFlag key flag) :
    m.SetsFlag key (flag.or (if printed then none else some false)) := by
  cases flag with
  | some flag =>
      obtain ⟨value, hvalue, hflag⟩ := h
      exact ⟨value, by rw [hget, hvalue, Option.some_or], hflag⟩
  | none =>
      have hnone : n.get? key = none := h
      rw [hnone, Option.none_or] at hget
      cases printed with
      | true => exact hget
      | false => exact ⟨"false".toList, hget, by decide⟩

end Modifiers

namespace Query

open Modifiers

section Behind

variable {q : Query S} {t : Text}

theorem mem_keys_printed_append_iff (ht : t.StartsApart isSeparator) {key : Text}
    (hkey : key ∉ knownKeys) :
    key ∈ (ofText (q.printed ++ t)).keys ↔ key ∈ (ofText t).keys := by
  rw [mem_keys_iff, mem_keys_iff, get?_ofText_append q.printed ht, get?_printed_of_not_mem q hkey,
    Option.or_none]

theorem getD_printed_flag (printed : Bool) (flag : Option Bool) :
    (flag.or (if printed then none else some false)).getD true = flag.getD printed := by
  cases flag with
  | some flag => rfl
  | none => cases printed <;> rfl

/-- A score that is printed only when it is off, and only where it has a meaning, is read as it was;
the rule of the score is what makes this so where it has none. -/
theorem getD_printed_score (hq : q.ScoreRule) (flag : Option Bool) :
    ((flag.or (if q.calculateScore || !q.operation.scoreIsMeaningful then none
      else some false)).map (· && q.operation.scoreIsMeaningful)).getD
        q.operation.scoreIsMeaningful =
      (flag.map (· && q.operation.scoreIsMeaningful)).getD q.calculateScore := by
  cases flag with
  | some flag => rfl
  | none =>
      cases hscore : q.calculateScore with
      | true =>
          have hmeaningful := hq hscore
          simp [hmeaningful]
      | false => cases q.operation.scoreIsMeaningful <;> rfl

/-- The printed modifiers, and behind them any others, do to a new query what the others alone do to
the printed query. -/
theorem modified_new_of_modified (hq : q.ScoreRule) (shape : S) (ht : t.StartsApart isSeparator)
    {result : Except (ParseError ε) (Query S)}
    (h : Modified (ofText t) { q with shape := shape } result) :
    Modified (ofText (q.printed ++ t)) (new q.operation shape) result := by
  have hget (key : Text) := (get?_ofText_append q.printed ht key).trans
    (congrArg ((ofText t).get? key).or (get?_printed q key))
  have hset {key value : Text} (hvalue : (ofText t).get? key = some value) :
      (ofText (q.printed ++ t)).get? key = some value := by rw [hget, hvalue, Option.some_or]
  have hminimum {x : Option Binary64} (hx : (ofText t).SetsBound "min".toList x) :
      (ofText (q.printed ++ t)).SetsBound "min".toList (x.or q.min) :=
    setsBound_of_get?_eq (hget _) hx
  have hmaximum {x : Option Binary64} (hx : (ofText t).SetsBound "max".toList x) :
      (ofText (q.printed ++ t)).SetsBound "max".toList (x.or q.max) :=
    setsBound_of_get?_eq (hget _) hx
  cases h with
  | invalidMin hvalue hread => exact .invalidMin (hset hvalue) hread
  | invalidMax hmin hvalue hread => exact .invalidMax (hminimum hmin) (hset hvalue) hread
  | unknownParameters hmin hmax hne hascending hkeys =>
      refine .unknownParameters (hminimum hmin) (hmaximum hmax) hne hascending fun key => ?_
      rw [hkeys]
      exact and_congr_left fun hkey => (mem_keys_printed_append_iff ht hkey).symm
  | @ok cacheable calculateScore min max hmin hmax hkeys hcacheable hcalculateScore =>
      have hknown : ∀ key ∈ (ofText (q.printed ++ t)).keys, key ∈ knownKeys := by
        intro key hkey
        by_contra hunknown
        exact hunknown (hkeys key ((mem_keys_printed_append_iff ht hunknown).1 hkey))
      have hok : Modified (ofText (q.printed ++ t)) (new q.operation shape)
          (.ok _ : Except (ParseError ε) _) :=
        .ok (hminimum hmin) (hmaximum hmax) hknown (setsFlag_of_get?_eq (hget _) hcacheable)
          (setsFlag_of_get?_eq (hget _) hcalculateScore)
      simpa only [new, Option.or_none, getD_printed_flag, getD_printed_score hq] using hok

/-- What comes of a new query is determined, so the converse needs no argument of its own. -/
theorem modified_printed_iff (hq : q.ScoreRule) (shape : S) (ht : t.StartsApart isSeparator)
    {result : Except (ParseError ε) (Query S)} :
    Modified (ofText (q.printed ++ t)) (new q.operation shape) result ↔
      Modified (ofText t) { q with shape := shape } result := by
  constructor
  · intro h
    obtain ⟨other, hother⟩ := exists_modified (ofText t) { q with shape := shape }
    have hsame := modify_of_modified (modified_new_of_modified hq shape ht hother)
    rw [modify_of_modified h] at hsame
    rwa [hsame]
  · exact modified_new_of_modified hq shape ht

end Behind

section Characters

/-- The printed modifiers hold no parenthesis, and no blanks but the spaces in front of them. -/
theorem mem_pair {name value : Text} {c : Char} (hname : name ∈ knownKeys)
    (hvalue : ∀ c ∈ value, isRunChar c = true) (h : c ∈ ' ' :: name ++ '=' :: value) :
    c = ' ' ∨ c = '=' ∨ isRunChar c = true := by
  simp only [List.cons_append, List.mem_cons, List.mem_append] at h
  rcases h with h | h | h | h
  · exact .inl h
  · exact .inr (.inr (isRunChar_of_mem_knownKeys hname c h))
  · exact .inr (.inl h)
  · exact .inr (.inr (hvalue c h))

theorem mem_flagText {name : Text} {flag : Bool} {c : Char} (hname : name ∈ knownKeys)
    (h : c ∈ flagText name flag) : c = ' ' ∨ c = '=' ∨ isRunChar c = true := by
  cases flag with
  | false => exact mem_pair hname isRunChar_of_mem_false h
  | true => cases h

theorem mem_boundText {name : Text} {x : Option Binary64} {c : Char} (hname : name ∈ knownKeys)
    (h : c ∈ boundText name x) : c = ' ' ∨ c = '=' ∨ isRunChar c = true := by
  cases x with
  | none => cases h
  | some x => exact mem_pair hname (fun _ hd => Binary64.isRunChar_of_mem_text hd) h

theorem mem_printed {q : Query S} {c : Char} (h : c ∈ q.printed) :
    c = ' ' ∨ c = '=' ∨ isRunChar c = true := by
  unfold printed at h
  rcases List.mem_append.1 h with h | h
  · rcases List.mem_append.1 h with h | h
    · rcases List.mem_append.1 h with h | h
      · exact mem_flagText (by decide) h
      · exact mem_flagText (by decide) h
    · exact mem_boundText (by decide) h
  · exact mem_boundText (by decide) h

theorem close_not_mem_printed (q : Query S) : ')' ∉ q.printed := by
  intro h
  rcases mem_printed h with h | h | h <;> cases h

theorem isSeparator_of_mem_printed {q : Query S} {c : Char} (h : c ∈ q.printed)
    (hblank : Text.isBlank c = true) : isSeparator c = true := by
  rcases mem_printed h with rfl | rfl | h
  · rfl
  · cases hblank
  · rw [(isRunChar_iff.1 h).2] at hblank
    cases hblank

end Characters

/-- However the text of the shape looks, it does not move the outermost parentheses. -/
theorem splits_text_append [Geometry S] (q : Query S) {t : Text} (ht : ')' ∉ t) :
    Parts.Splits ⟨q.operation.name, Geometry.text q.shape, q.printed ++ t⟩ (q.text ++ t) where
  query_eq := by
    rw [text_eq]
    simp
  open_not_mem := q.operation.open_not_mem_name
  close_not_mem := by
    intro h
    rcases List.mem_append.1 h with h | h
    · exact q.close_not_mem_printed h
    · exact ht h

theorem trim_name (operation : Operation) : operation.name.trim = operation.name :=
  Text.trim_eq_self (.of_forall fun _ hc => Operation.isBlank_of_mem_name hc)

theorem ofText_trim_printed (q : Query S) {t : Text}
    (ht : ∀ c ∈ t, Text.isBlank c = true → isSeparator c = true) :
    ofText (q.printed ++ t).trim = ofText (q.printed ++ t) := by
  unfold ofText
  rw [Text.fields_trim]
  intro c hc hblank
  rcases List.mem_append.1 hc with hc | hc
  · exact isSeparator_of_mem_printed hc hblank
  · exact ht c hc hblank

end Query

end SpatialQuery
