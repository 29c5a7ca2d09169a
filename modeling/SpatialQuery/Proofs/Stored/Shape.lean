import SpatialQuery.Proofs.Shape.WellFormed
import SpatialQuery.Proofs.Stored.Decoder
import SpatialQuery.Proofs.Stored.Forms

/-!
# Stored shapes are read back

A shape is decoded from its stored form exactly if all of its numbers are finite. Neither the order
of corners nor the sign of a radius matters here. Conversely, whatever is decoded from a value of
the storage format has finite numbers only.
-/

namespace SpatialQuery

open Stored

theorem Stored.Decoder.number_field?_ofNumber {fields : List (Text × Value)} {name : Text}
    {x : Binary64} (h : fields.lookup name = some (.ofNumber x)) :
    Decoder.number.field? fields name =
      if x.isFinite then .ok (some x) else .error .invalidType := by
  rw [Decoder.field?_of_lookup h, Decoder.number_ofNumber]
  split <;> rfl

namespace Point

/-- All numbers of the point are finite. -/
def isFinite (p : Point) : Bool := p.x.isFinite && p.y.isFinite

theorem decode_encode (p : Point) :
    decode p.encode = if p.isFinite then .ok p else .error .invalidType := by
  let fields : List (Text × Value) := [(xName, .ofNumber p.x), (yName, .ofNumber p.y)]
  have hx : fields.lookup xName = some (.ofNumber p.x) := rfl
  have hy : fields.lookup yName = some (.ofNumber p.y) := rfl
  change ofFields fields = _
  unfold ofFields isFinite
  rw [Decoder.number_field?_ofNumber hx, Decoder.number_field?_ofNumber hy]
  cases p.x.isFinite <;> cases p.y.isFinite <;> rfl

theorem storable_encode (p : Point) : Storable p.encode := by
  apply Storable.object
  simp [storable_ofNumber]

theorem yields_decode : decode.Yields fun p => p.isFinite = true := by
  refine Decoder.yields_of_items (fun _ _ => ofFields_eq_ok_iff) ?_
  intro items hitems p h
  obtain ⟨x, y, rfl, hx, hy⟩ := ofItems_eq_ok_iff.1 h
  simp only [List.forall_mem_cons] at hitems
  obtain ⟨hstoredX, hstoredY, _⟩ := hitems
  exact Bool.and_eq_true_iff.2 ⟨Decoder.yields_number x hstoredX _ hx,
    Decoder.yields_number y hstoredY _ hy⟩

end Point

namespace Rectangle

/-- All numbers of the rectangle are finite. -/
def isFinite (r : Rectangle) : Bool :=
  r.minX.isFinite && r.minY.isFinite && r.maxX.isFinite && r.maxY.isFinite

theorem decode_encode (r : Rectangle) :
    decode r.encode = if r.isFinite then .ok r else .error .invalidType := by
  let fields : List (Text × Value) :=
    [(minXName, .ofNumber r.minX), (minYName, .ofNumber r.minY),
      (maxXName, .ofNumber r.maxX), (maxYName, .ofNumber r.maxY)]
  have hminX : fields.lookup minXName = some (.ofNumber r.minX) := rfl
  have hminY : fields.lookup minYName = some (.ofNumber r.minY) := rfl
  have hmaxX : fields.lookup maxXName = some (.ofNumber r.maxX) := rfl
  have hmaxY : fields.lookup maxYName = some (.ofNumber r.maxY) := rfl
  change ofFields fields = _
  unfold ofFields isFinite
  rw [Decoder.number_field?_ofNumber hmaxX, Decoder.number_field?_ofNumber hmaxY,
    Decoder.number_field?_ofNumber hminX, Decoder.number_field?_ofNumber hminY]
  cases r.maxX.isFinite <;> cases r.maxY.isFinite <;> cases r.minX.isFinite <;>
    cases r.minY.isFinite <;> rfl

theorem storable_encode (r : Rectangle) : Storable r.encode := by
  apply Storable.object
  simp [storable_ofNumber]

theorem yields_decode : decode.Yields fun r => r.isFinite = true := by
  refine Decoder.yields_of_items (fun _ _ => ofFields_eq_ok_iff) ?_
  intro items hitems r h
  obtain ⟨minX, minY, maxX, maxY, rfl, hminX, hminY, hmaxX, hmaxY⟩ := ofItems_eq_ok_iff.1 h
  simp only [List.forall_mem_cons] at hitems
  obtain ⟨hstoredMinX, hstoredMinY, hstoredMaxX, hstoredMaxY, _⟩ := hitems
  simp [isFinite, Decoder.yields_number minX hstoredMinX _ hminX,
    Decoder.yields_number minY hstoredMinY _ hminY, Decoder.yields_number maxX hstoredMaxX _ hmaxX,
    Decoder.yields_number maxY hstoredMaxY _ hmaxY]

end Rectangle

namespace Circle

/-- All numbers of the circle are finite. -/
def isFinite (c : Circle) : Bool := c.center.isFinite && c.radius.isFinite

theorem decode_encode (c : Circle) :
    decode c.encode = if c.isFinite then .ok c else .error .invalidType := by
  let fields : List (Text × Value) :=
    [(centerName, c.center.encode), (radiusName, .ofNumber c.radius)]
  have hcenter : fields.lookup centerName = some c.center.encode := rfl
  have hradius : fields.lookup radiusName = some (.ofNumber c.radius) := rfl
  change ofFields fields = _
  unfold ofFields isFinite
  rw [Decoder.field?_of_lookup hcenter, Point.decode_encode,
    Decoder.number_field?_ofNumber hradius]
  cases c.center.isFinite <;> cases c.radius.isFinite <;> rfl

theorem storable_encode (c : Circle) : Storable c.encode := by
  apply Storable.object
  simp [storable_ofNumber, Point.storable_encode]

theorem yields_decode : decode.Yields fun c => c.isFinite = true := by
  refine Decoder.yields_of_items (fun _ _ => ofFields_eq_ok_iff) ?_
  intro items hitems c h
  obtain ⟨center, radius, rfl, hcenter, hradius⟩ := ofItems_eq_ok_iff.1 h
  simp only [List.forall_mem_cons] at hitems
  obtain ⟨hstoredCenter, hstoredRadius, _⟩ := hitems
  exact Bool.and_eq_true_iff.2 ⟨Point.yields_decode center hstoredCenter _ hcenter,
    Decoder.yields_number radius hstoredRadius _ hradius⟩

end Circle

namespace Shape

/-- All numbers of the shape are finite. -/
def isFinite : Shape → Bool
  | point p => p.isFinite
  | rectangle r => r.isFinite
  | circle c => c.isFinite

theorem isFinite_iff {s : Shape} : s.isFinite = true ↔ ∀ x ∈ s.numbers, x.isFinite = true := by
  cases s <;>
    simp [isFinite, Point.isFinite, Rectangle.isFinite, Circle.isFinite, numbers, items,
      Item.value, and_assoc]

theorem decode_ofVariant {name : Text} {decodeContent : Decoder Shape}
    (h : decoderOf? name = some decodeContent) (content : Value) :
    decode (.ofVariant name content) = decodeContent content := by
  have hvariant : Decoder.variant (.ofVariant name content) = .ok (name, some content) := rfl
  unfold decode
  rw [hvariant, ok_bind]
  simp only [h]

theorem decoderOf?_pointName :
    decoderOf? pointName = some fun v => (Point.decode v).map point := if_pos rfl

theorem decoderOf?_rectangleName :
    decoderOf? rectangleName = some fun v => (Rectangle.decode v).map rectangle :=
  (if_neg (by decide)).trans (if_pos rfl)

theorem decoderOf?_circleName :
    decoderOf? circleName = some fun v => (Circle.decode v).map circle :=
  (if_neg (by decide)).trans ((if_neg (by decide)).trans (if_pos rfl))

/-- A shape is read back unless one of its numbers was lost. -/
theorem decode_encode (s : Shape) :
    decode s.encode = if s.isFinite then .ok s else .error .invalidType := by
  cases s with
  | point p =>
      change decode (.ofVariant pointName p.encode) =
        if p.isFinite then .ok (point p) else .error .invalidType
      rw [decode_ofVariant decoderOf?_pointName, Point.decode_encode]
      cases p.isFinite <;> rfl
  | rectangle r =>
      change decode (.ofVariant rectangleName r.encode) =
        if r.isFinite then .ok (rectangle r) else .error .invalidType
      rw [decode_ofVariant decoderOf?_rectangleName, Rectangle.decode_encode]
      cases r.isFinite <;> rfl
  | circle c =>
      change decode (.ofVariant circleName c.encode) =
        if c.isFinite then .ok (circle c) else .error .invalidType
      rw [decode_ofVariant decoderOf?_circleName, Circle.decode_encode]
      cases c.isFinite <;> rfl

theorem storable_encode (s : Shape) : Storable s.encode := by
  cases s with
  | point p => exact .object (by simp [p.storable_encode])
  | rectangle r => exact .object (by simp [r.storable_encode])
  | circle c => exact .object (by simp [c.storable_encode])

/-- Every decoder of a variant yields shapes with finite numbers. -/
theorem yields_decoderOf? {name : Text} {decodeContent : Decoder Shape}
    (h : decoderOf? name = some decodeContent) :
    decodeContent.Yields fun s => s.isFinite = true := by
  intro v hv s hs
  unfold decoderOf? at h
  split at h
  · obtain rfl := Option.some.inj h
    obtain ⟨p, hp, rfl⟩ := map_eq_ok_iff.1 hs
    exact Point.yields_decode v hv p hp
  · split at h
    · obtain rfl := Option.some.inj h
      obtain ⟨r, hr, rfl⟩ := map_eq_ok_iff.1 hs
      exact Rectangle.yields_decode v hv r hr
    · split at h
      · obtain rfl := Option.some.inj h
        obtain ⟨c, hc, rfl⟩ := map_eq_ok_iff.1 hs
        exact Circle.yields_decode v hv c hc
      · cases h

theorem yields_decode : decode.Yields fun s => s.isFinite = true := by
  intro v hv s h
  obtain ⟨⟨name, content⟩, hvariant, h⟩ := bind_eq_ok_iff.1 h
  cases hdecoder : decoderOf? name with
  | none =>
      simp only [hdecoder] at h
      cases h
  | some decodeContent =>
      cases content with
      | none =>
          simp only [hdecoder] at h
          cases h
      | some content =>
          simp only [hdecoder] at h
          exact yields_decoderOf? hdecoder content (Decoder.storable_of_variant hv hvariant) s h

end Shape

end SpatialQuery
