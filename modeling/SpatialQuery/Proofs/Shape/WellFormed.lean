import SpatialQuery.Proofs.Shape.Written

/-!
# Well-formed shapes

Any numbers can be put into a shape, but a shape that comes out of a text holds finite numbers, the
corners of a rectangle in their order, and a radius that is not below zero. The order of corners is
stated by `Binary64.le`, since the reader itself only asks whether they are reversed.
-/

namespace SpatialQuery

namespace Binary64

/-- The numeric order with equality, in which `nan` is related to nothing. -/
def le (x y : Binary64) : Bool :=
  match x.place?, y.place? with
  | some i, some j => i ≤ j
  | _, _ => false

/-- Not to be above is to be below or equal, except for `nan`. -/
theorem le_eq_not_lt {x y : Binary64} (hx : x.isFinite = true) (hy : y.isFinite = true) :
    x.le y = !y.lt x := by
  cases x with
  | nan => cases hx
  | infinite _ => cases hx
  | finite m i =>
      cases y with
      | nan => cases hy
      | infinite _ => cases hy
      | finite n j => simp [le, lt, place?, ← decide_not]

theorem sameValue_self_of_isFinite {x : Binary64} (h : x.isFinite = true) :
    x.sameValue x = true := by
  rw [sameValue_self]
  cases x with
  | nan => cases h
  | infinite _ => cases h
  | finite _ _ => rfl

end Binary64

namespace Form

theorem exists_of_mem_coordinates {form : Form} {x : Binary64} (h : x ∈ form.coordinates) :
    ∃ item ∈ form.items, item.value = x := by
  obtain ⟨item, hitem, hx⟩ := List.mem_filterMap.1 h
  refine ⟨item, hitem, ?_⟩
  cases item with
  | coordinate y => exact Option.some.inj hx
  | radius _ => cases hx

theorem exists_of_mem_radius? {form : Form} {x : Binary64} (h : x ∈ form.radius?) :
    ∃ item ∈ form.items, item.value = x := by
  obtain ⟨item, hitem, hx⟩ := List.mem_filterMap.1 (List.mem_of_getLast? h)
  refine ⟨item, hitem, ?_⟩
  cases item with
  | coordinate _ => cases hx
  | radius r => exact Option.some.inj hx

end Form

namespace Shape

/-- The items that a shape is written with. -/
def items : Shape → List Item
  | point p => [.coordinate p.x, .coordinate p.y]
  | rectangle r => [.coordinate r.minX, .coordinate r.minY, .coordinate r.maxX, .coordinate r.maxY]
  | circle c => [.coordinate c.center.x, .coordinate c.center.y, .radius c.radius]

/-- The numbers of a shape. -/
def numbers (s : Shape) : List Binary64 := s.items.map Item.value

/-- The corners of a rectangle are in their order, and a radius is not below zero. -/
def isOrdered : Shape → Bool
  | point _ => true
  | rectangle r => r.minX.le r.maxX && r.minY.le r.maxY
  | circle c => !c.radius.lt .zero

/-- A shape that a text can be read as. -/
structure WellFormed (s : Shape) : Prop where
  finite : ∀ x ∈ s.numbers, x.isFinite = true
  ordered : s.isOrdered = true

theorem numbers_of_hasNumbers {s : Shape} {coordinates : List Binary64} {radius : Option Binary64}
    (h : s.HasNumbers coordinates radius) : s.numbers = coordinates ++ radius.toList := by
  cases h <;> rfl

theorem isReversed_eq_not_isOrdered {r : Rectangle}
    (h : ∀ x ∈ (rectangle r).numbers, x.isFinite = true) :
    r.isReversed = !(rectangle r).isOrdered := by
  have hminX := h r.minX (by simp [numbers, items, Item.value])
  have hminY := h r.minY (by simp [numbers, items, Item.value])
  have hmaxX := h r.maxX (by simp [numbers, items, Item.value])
  have hmaxY := h r.maxY (by simp [numbers, items, Item.value])
  simp [Rectangle.isReversed, isOrdered, Binary64.le_eq_not_lt hminX hmaxX,
    Binary64.le_eq_not_lt hminY hmaxY]

theorem isOrdered_of_hasNumbers {s : Shape} {coordinates : List Binary64}
    {radius : Option Binary64} (h : s.HasNumbers coordinates radius)
    (hfinite : ∀ x ∈ s.numbers, x.isFinite = true) : s.isOrdered = true := by
  cases h with
  | point => rfl
  | rectangle h => simpa [isReversed_eq_not_isOrdered hfinite] using h
  | circle h => simp [isOrdered, h]
  | thirdNumber h => simp [isOrdered, h]

/-- A shape that is well-formed is made by the numbers it is written with. -/
theorem WellFormed.hasNumbers {s : Shape} (h : s.WellFormed) :
    s.HasNumbers (s.items.filterMap Item.coordinate?)
      (s.items.filterMap Item.radius?).getLast? := by
  have hordered := h.ordered
  cases s with
  | point p => exact .point
  | rectangle r =>
      apply HasNumbers.rectangle
      rw [isReversed_eq_not_isOrdered h.finite, hordered]
      rfl
  | circle c =>
      apply HasNumbers.circle
      simpa [isOrdered] using hordered

/-- What a text is read as is well-formed. -/
theorem wellFormed_of_read {t : Text} {s : Shape} (h : read t = .ok s) : s.WellFormed := by
  obtain ⟨tokens, form, htokens, hform, _, hnumbers⟩ := read_eq_ok_iff.1 h
  have hfinite : ∀ x ∈ s.numbers, x.isFinite = true := by
    intro x hx
    have hitem : ∃ item ∈ form.items, item.value = x := by
      rw [numbers_of_hasNumbers hnumbers] at hx
      rcases List.mem_append.1 hx with hx | hx
      · exact Form.exists_of_mem_coordinates hx
      · exact Form.exists_of_mem_radius? (Option.mem_toList.1 hx)
    obtain ⟨item, hitem, rfl⟩ := hitem
    exact Token.isFinite_of_mem_lexed htokens (Form.number_mem_of_written hform item hitem)
  exact ⟨hfinite, isOrdered_of_hasNumbers hnumbers hfinite⟩

/-- A shape with finite numbers has the same value as itself, whether it is ordered or not. -/
theorem sameValue_self_of_finite {s : Shape} (h : ∀ x ∈ s.numbers, x.isFinite = true) :
    s.sameValue s = true := by
  have hself : ∀ x ∈ s.numbers, x.sameValue x = true :=
    fun x hx => Binary64.sameValue_self_of_isFinite (h x hx)
  cases s
  all_goals
    simp only [numbers, items, Item.value, List.map_cons, List.map_nil, List.forall_mem_cons]
      at hself
    simp [sameValue, Point.sameValue, Rectangle.sameValue, Circle.sameValue, hself]

theorem WellFormed.sameValue_self {s : Shape} (h : s.WellFormed) : s.sameValue s = true :=
  sameValue_self_of_finite h.finite

end Shape

end SpatialQuery
