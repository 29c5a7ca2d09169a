import SpatialQuery.Number.Interchange
import SpatialQuery.Proofs.Query.Printed
import SpatialQuery.Proofs.Query.Reachable
import SpatialQuery.Proofs.Shape.Wording

/-!
# Canonical texts as keys

Two queries with the same canonical text are the same query, bit by bit. The text need not be read
back for that: it is cut at its outermost parentheses, the text of the shape is cut at its blanks,
and the modifiers behind it are looked up one by one. So it also holds of shapes that no text is
read as. The flag of the score is not printed where scores have no meaning, and there the rule of
the score fixes it.
-/

namespace SpatialQuery

/-- Two numbers have the same bits, or neither is a number. -/
def Binary64.SameBits (x y : Binary64) : Prop := x.toBits = y.toBits ∨ x = nan ∧ y = nan

theorem Binary64.sameBits_iff {x y : Binary64} : x.SameBits y ↔ x = y := by
  constructor
  · rintro (h | ⟨rfl, rfl⟩)
    · rw [← ofBits_toBits x, h, ofBits_toBits]
    · rfl
  · rintro rfl
    exact .inl rfl

theorem Operation.name_injective : Function.Injective Operation.name := by
  intro operation other h
  exact Option.some.inj ((ofName?_name operation).symm.trans (h ▸ ofName?_name other))

theorem Keyword.open_not_mem_name (keyword : Keyword) : '(' ∉ keyword.name := by
  cases keyword <;> decide

namespace Item

/-- Only the text of a radius holds an equals sign. -/
theorem text_injective : Function.Injective text := by
  have hequals : ∀ x r : Binary64, x.text ≠ "d=".toList ++ r.text := by
    intro x r h
    have hmem : '=' ∈ x.text := by
      rw [h]
      exact List.mem_append_left _ (by decide)
    cases Binary64.isRunChar_of_mem_text hmem
  intro item other h
  cases item with
  | coordinate x =>
      cases other with
      | coordinate y => exact congrArg coordinate (Binary64.text_inj h)
      | radius r => exact absurd h (hequals x r)
  | radius r =>
      cases other with
      | coordinate x => exact absurd h.symm (hequals x r)
      | radius s => exact congrArg radius (Binary64.text_inj (List.append_cancel_left h))

end Item

namespace Shape

/-- The items of a shape are its numbers with the radius marked, so they tell its kind. -/
theorem items_injective : Function.Injective items := by
  intro s r h
  rcases s with ⟨_, _⟩ | ⟨_, _, _, _⟩ | ⟨⟨_, _⟩, _⟩ <;>
    rcases r with ⟨_, _⟩ | ⟨_, _, _, _⟩ | ⟨⟨_, _⟩, _⟩ <;> simp_all [items]

/-- The texts of the items are found again between the blanks. -/
theorem splitOn_intercalate_items (s : Shape) :
    ([' '].intercalate (s.items.map Item.text)).splitOn ' ' = s.items.map Item.text := by
  apply List.splitOn_intercalate
  · intro piece hpiece hblank
    obtain ⟨item, _, rfl⟩ := List.mem_map.1 hpiece
    cases Item.isBlank_of_mem_text hblank
  · cases s <;> simp [items]

theorem text_injective : Function.Injective text := by
  intro s r h
  have hcut : ∀ u : Shape, Text.cutFirst '(' u.text =
      some (u.keyword.name, [' '].intercalate (u.items.map Item.text) ++ [')']) :=
    fun u => Text.cutFirst_eq_some_iff.2 ⟨u.text_eq, u.keyword.open_not_mem_name⟩
  have hparts := (hcut s).symm.trans (h ▸ hcut r)
  have hbody := List.append_cancel_right (Prod.mk.inj (Option.some.inj hparts)).2
  have htexts : s.items.map Item.text = r.items.map Item.text := by
    rw [← splitOn_intercalate_items, hbody, splitOn_intercalate_items]
  exact items_injective (List.map_injective_iff.2 Item.text_injective htexts)

/-- Two shapes are of one kind, and each of their numbers has the same bits. -/
inductive SameBits : Shape → Shape → Prop
  | point {x y x' y' : Binary64} (hx : x.SameBits x') (hy : y.SameBits y') :
      SameBits (point ⟨x, y⟩) (point ⟨x', y'⟩)
  | rectangle {minX minY maxX maxY minX' minY' maxX' maxY' : Binary64}
      (hminX : minX.SameBits minX') (hminY : minY.SameBits minY')
      (hmaxX : maxX.SameBits maxX') (hmaxY : maxY.SameBits maxY') :
      SameBits (rectangle ⟨minX, minY, maxX, maxY⟩) (rectangle ⟨minX', minY', maxX', maxY'⟩)
  | circle {x y r x' y' r' : Binary64} (hx : x.SameBits x') (hy : y.SameBits y')
      (hr : r.SameBits r') : SameBits (circle ⟨⟨x, y⟩, r⟩) (circle ⟨⟨x', y'⟩, r'⟩)

theorem sameBits_iff {s r : Shape} : s.SameBits r ↔ s = r := by
  constructor
  · intro h
    cases h <;> simp_all [Binary64.sameBits_iff]
  · rintro rfl
    cases s with
    | point _ => exact .point (.inl rfl) (.inl rfl)
    | rectangle _ => exact .rectangle (.inl rfl) (.inl rfl) (.inl rfl) (.inl rfl)
    | circle _ => exact .circle (.inl rfl) (.inl rfl) (.inl rfl)

end Shape

namespace Query

open Modifiers

variable {S : Type}

/-- Two bounds are both absent or have the same bits. -/
def SameBoundBits : Option Binary64 → Option Binary64 → Prop := Option.Rel Binary64.SameBits

theorem sameBoundBits_iff {x y : Option Binary64} : SameBoundBits x y ↔ x = y := by
  constructor
  · intro h
    cases h with
    | some h => rw [Binary64.sameBits_iff.1 h]
    | none => rfl
  · rintro rfl
    cases x with
    | some x => exact .some (.inl rfl)
    | none => exact .none

section Lookups

variable (q : Query S)

theorem get?_cacheKey_printed :
    (ofText q.printed).get? cacheKey = if q.cacheable then none else some "false".toList :=
  (get?_printed q _).trans (if_pos rfl)

theorem get?_scoreKey_printed :
    (ofText q.printed).get? scoreKey =
      if q.calculateScore || !q.operation.scoreIsMeaningful then none
      else some "false".toList := by
  rw [get?_printed, if_neg (by decide), if_pos rfl]

theorem get?_minKey_printed :
    (ofText q.printed).get? Bound.min.key = q.min.map Binary64.text := by
  rw [get?_printed, if_neg (by decide), if_neg (by decide), if_pos rfl]

theorem get?_maxKey_printed :
    (ofText q.printed).get? Bound.max.key = q.max.map Binary64.text := by
  rw [get?_printed, if_neg (by decide), if_neg (by decide), if_neg (by decide), if_pos rfl]

end Lookups

theorem eq_of_listed_eq {flag other : Bool}
    (h : (if flag then none else some "false".toList) =
      if other then none else some "false".toList) : flag = other := by
  cases flag <;> cases other <;> first | rfl | cases h

/-- Where the flag of the score is not printed, the rule of the score fixes it. -/
theorem ScoreRule.calculateScore_eq {q r : Query S} (hq : q.ScoreRule) (hr : r.ScoreRule)
    (hoperation : q.operation = r.operation)
    (h : (q.calculateScore || !q.operation.scoreIsMeaningful) =
      (r.calculateScore || !r.operation.scoreIsMeaningful)) :
    q.calculateScore = r.calculateScore := by
  rw [← hq.and_eq, ← hr.and_eq, ← hoperation]
  rw [← hoperation] at h
  cases hmeaningful : q.operation.scoreIsMeaningful with
  | false => rw [Bool.and_false, Bool.and_false]
  | true => simpa [hmeaningful] using h

/-- Every printed modifier is found by its key. -/
theorem printed_eq_iff {q r : Query S} (hq : q.ScoreRule) (hr : r.ScoreRule)
    (hoperation : q.operation = r.operation) :
    q.printed = r.printed ↔ q.cacheable = r.cacheable ∧ q.calculateScore = r.calculateScore ∧
      q.min = r.min ∧ q.max = r.max := by
  constructor
  · intro h
    have hget : ∀ key, (ofText q.printed).get? key = (ofText r.printed).get? key :=
      fun key => by rw [h]
    have hcache := hget cacheKey
    have hscore := hget scoreKey
    have hmin := hget Bound.min.key
    have hmax := hget Bound.max.key
    rw [get?_cacheKey_printed, get?_cacheKey_printed] at hcache
    rw [get?_scoreKey_printed, get?_scoreKey_printed] at hscore
    rw [get?_minKey_printed, get?_minKey_printed] at hmin
    rw [get?_maxKey_printed, get?_maxKey_printed] at hmax
    have htext : Function.Injective (Option.map Binary64.text) :=
      Option.map_injective fun _ _ => Binary64.text_inj
    exact ⟨eq_of_listed_eq hcache, hq.calculateScore_eq hr hoperation (eq_of_listed_eq hscore),
      htext hmin, htext hmax⟩
  · rintro ⟨hcacheable, hscore, hmin, hmax⟩
    unfold printed
    rw [hoperation, hcacheable, hscore, hmin, hmax]

/-- The outermost parentheses of a canonical text are those around its shape. -/
theorem text_eq_text_iff [Geometry S] {q r : Query S} (hq : q.ScoreRule) (hr : r.ScoreRule) :
    q.text = r.text ↔ q.operation = r.operation ∧ Geometry.text q.shape = Geometry.text r.shape ∧
      q.cacheable = r.cacheable ∧ q.calculateScore = r.calculateScore ∧ q.min = r.min ∧
        q.max = r.max := by
  have hsplits : ∀ u : Query S, Parts.Splits ⟨u.operation.name, Geometry.text u.shape, u.printed⟩
      u.text := by
    intro u
    simpa using splits_text_append u (t := []) (by simp)
  constructor
  · intro h
    have hparts := (hsplits q).unique (h ▸ hsplits r)
    obtain ⟨hname, hshape, hprinted⟩ := Parts.mk.inj hparts
    have hoperation := Operation.name_injective hname
    exact ⟨hoperation, hshape, (printed_eq_iff hq hr hoperation).1 hprinted⟩
  · rintro ⟨hoperation, hshape, hmodifiers⟩
    rw [text_eq, text_eq, hoperation, hshape, (printed_eq_iff hq hr hoperation).2 hmodifiers]

/-- Two queries have the same canonical text exactly when their operations, their flags and the bits
of all their numbers are the same, even where the shape is one that no text is read as. -/
theorem text_eq_iff_of_reachable {q r : Query Shape} (hq : Reachable q) (hr : Reachable r) :
    q.text = r.text ↔ q.operation = r.operation ∧ q.shape.SameBits r.shape ∧
      q.cacheable = r.cacheable ∧ q.calculateScore = r.calculateScore ∧
        SameBoundBits q.min r.min ∧ SameBoundBits q.max r.max := by
  have hshape : Geometry.text q.shape = Geometry.text r.shape ↔ q.shape.SameBits r.shape := by
    rw [Shape.sameBits_iff]
    exact Shape.text_injective.eq_iff
  rw [text_eq_text_iff hq.scoreRule hr.scoreRule, hshape, sameBoundBits_iff, sameBoundBits_iff]

/-- Where scores have no meaning, nothing that is said of them matters; the sign of a zero does. -/
theorem text_eq_iff_of_nan :
    let q : Query Shape :=
      new .isEqualTo (.circle ⟨⟨.nan, .infinite true⟩, .finite true ⟨1, by decide⟩⟩)
    (q.withCalculateScore true).text = q.text ∧
      (q.withMin (some .zero)).text ≠ (q.withMin (some (.finite true ⟨0, by decide⟩))).text := by
  intro q
  have hq : Reachable q := .new _ _
  constructor
  · exact (text_eq_iff_of_reachable (hq.withCalculateScore true) hq).2
      ⟨rfl, Shape.sameBits_iff.2 rfl, rfl, rfl, .none, .none⟩
  · intro h
    have hmin := ((text_eq_iff_of_reachable (hq.withMin _) (hq.withMin _)).1 h).2.2.2.2.1
    cases sameBoundBits_iff.1 hmin

end Query

end SpatialQuery
