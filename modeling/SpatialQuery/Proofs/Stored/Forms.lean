import SpatialQuery.Proofs.Stored.Fields
import SpatialQuery.Stored.Query

/-!
# What stored values are decoded from

Each decoder of named fields takes an object exactly if the object has the fields that are needed
and the array of its fields is taken, and it takes an array exactly if there are as many items as
fields and each item is decoded. The order in which a decoder looks at the fields only matters to
the fault that is reported.
-/

namespace SpatialQuery

open Stored

namespace Point

/-- The names of the coordinates in the order of declaration. -/
def names : List Text := [xName, yName]

variable {fields : List (Text × Value)} {items : List Value} {p : Point}

theorem ofItems_eq_ok_iff :
    ofItems items = .ok p ↔
      ∃ x y, items = [x, y] ∧ Decoder.number x = .ok p.x ∧ Decoder.number y = .ok p.y := by
  constructor
  · intro h
    obtain ⟨⟨_, _⟩, hx, h⟩ := bind_eq_ok_iff.1 h
    obtain ⟨⟨_, _⟩, hy, h⟩ := bind_eq_ok_iff.1 h
    obtain ⟨_, hend, h⟩ := bind_eq_ok_iff.1 h
    obtain rfl := Except.ok.inj h
    obtain ⟨x, rfl, hdecodeX⟩ := Decoder.next_eq_ok_iff.1 hx
    obtain ⟨y, rfl, hdecodeY⟩ := Decoder.next_eq_ok_iff.1 hy
    obtain rfl := Decoder.finish_eq_ok_iff.1 hend
    exact ⟨x, y, rfl, hdecodeX, hdecodeY⟩
  · rintro ⟨x, y, rfl, hx, hy⟩
    exact bind_eq_ok_iff.2 ⟨(p.x, [y]), Decoder.next_eq_ok_iff.2 ⟨x, rfl, hx⟩,
      bind_eq_ok_iff.2 ⟨(p.y, []), Decoder.next_eq_ok_iff.2 ⟨y, rfl, hy⟩, rfl⟩⟩

theorem ofFields_eq_ok_iff :
    ofFields fields = .ok p ↔ Has names fields ∧ ofItems (itemsOf names fields) = .ok p := by
  constructor
  · intro h
    obtain ⟨_, hx, h⟩ := bind_eq_ok_iff.1 h
    obtain ⟨_, hy, h⟩ := bind_eq_ok_iff.1 h
    obtain ⟨_, hx', h⟩ := bind_eq_ok_iff.1 h
    obtain ⟨_, hy', h⟩ := bind_eq_ok_iff.1 h
    obtain rfl := Except.ok.inj h
    obtain ⟨hhasX, hx⟩ := Decoder.require_eq_ok_iff.1 ⟨_, hx, hx'⟩
    obtain ⟨hhasY, hy⟩ := Decoder.require_eq_ok_iff.1 ⟨_, hy, hy'⟩
    exact ⟨.cons hhasX (.cons hhasY .nil), ofItems_eq_ok_iff.2 ⟨_, _, rfl, hx, hy⟩⟩
  · rintro ⟨hhas, h⟩
    obtain ⟨vx, vy, hitems, hx, hy⟩ := ofItems_eq_ok_iff.1 h
    change [field fields xName, field fields yName] = [vx, vy] at hitems
    cases hitems
    obtain ⟨x, hx, hx'⟩ := Decoder.require_eq_ok_iff.2 ⟨hhas.head, hx⟩
    obtain ⟨y, hy, hy'⟩ := Decoder.require_eq_ok_iff.2 ⟨hhas.tail.head, hy⟩
    exact bind_eq_ok_iff.2 ⟨x, hx, bind_eq_ok_iff.2 ⟨y, hy,
      bind_eq_ok_iff.2 ⟨_, hx', bind_eq_ok_iff.2 ⟨_, hy', rfl⟩⟩⟩⟩

end Point

namespace Rectangle

/-- The names of the corners in the order of declaration. -/
def names : List Text := [minXName, minYName, maxXName, maxYName]

variable {fields : List (Text × Value)} {items : List Value} {r : Rectangle}

theorem ofItems_eq_ok_iff :
    ofItems items = .ok r ↔
      ∃ minX minY maxX maxY, items = [minX, minY, maxX, maxY] ∧
        Decoder.number minX = .ok r.minX ∧ Decoder.number minY = .ok r.minY ∧
          Decoder.number maxX = .ok r.maxX ∧ Decoder.number maxY = .ok r.maxY := by
  constructor
  · intro h
    obtain ⟨⟨_, _⟩, hminX, h⟩ := bind_eq_ok_iff.1 h
    obtain ⟨⟨_, _⟩, hminY, h⟩ := bind_eq_ok_iff.1 h
    obtain ⟨⟨_, _⟩, hmaxX, h⟩ := bind_eq_ok_iff.1 h
    obtain ⟨⟨_, _⟩, hmaxY, h⟩ := bind_eq_ok_iff.1 h
    obtain ⟨_, hend, h⟩ := bind_eq_ok_iff.1 h
    obtain rfl := Except.ok.inj h
    obtain ⟨minX, rfl, hdecodeMinX⟩ := Decoder.next_eq_ok_iff.1 hminX
    obtain ⟨minY, rfl, hdecodeMinY⟩ := Decoder.next_eq_ok_iff.1 hminY
    obtain ⟨maxX, rfl, hdecodeMaxX⟩ := Decoder.next_eq_ok_iff.1 hmaxX
    obtain ⟨maxY, rfl, hdecodeMaxY⟩ := Decoder.next_eq_ok_iff.1 hmaxY
    obtain rfl := Decoder.finish_eq_ok_iff.1 hend
    exact ⟨minX, minY, maxX, maxY, rfl, hdecodeMinX, hdecodeMinY, hdecodeMaxX, hdecodeMaxY⟩
  · rintro ⟨minX, minY, maxX, maxY, rfl, hminX, hminY, hmaxX, hmaxY⟩
    exact bind_eq_ok_iff.2 ⟨_, Decoder.next_eq_ok_iff.2 ⟨minX, rfl, hminX⟩,
      bind_eq_ok_iff.2 ⟨_, Decoder.next_eq_ok_iff.2 ⟨minY, rfl, hminY⟩,
        bind_eq_ok_iff.2 ⟨_, Decoder.next_eq_ok_iff.2 ⟨maxX, rfl, hmaxX⟩,
          bind_eq_ok_iff.2 ⟨_, Decoder.next_eq_ok_iff.2 ⟨maxY, rfl, hmaxY⟩, rfl⟩⟩⟩⟩

theorem ofFields_eq_ok_iff :
    ofFields fields = .ok r ↔ Has names fields ∧ ofItems (itemsOf names fields) = .ok r := by
  constructor
  · intro h
    obtain ⟨_, hmaxX, h⟩ := bind_eq_ok_iff.1 h
    obtain ⟨_, hmaxY, h⟩ := bind_eq_ok_iff.1 h
    obtain ⟨_, hminX, h⟩ := bind_eq_ok_iff.1 h
    obtain ⟨_, hminY, h⟩ := bind_eq_ok_iff.1 h
    obtain ⟨_, hminX', h⟩ := bind_eq_ok_iff.1 h
    obtain ⟨_, hminY', h⟩ := bind_eq_ok_iff.1 h
    obtain ⟨_, hmaxX', h⟩ := bind_eq_ok_iff.1 h
    obtain ⟨_, hmaxY', h⟩ := bind_eq_ok_iff.1 h
    obtain rfl := Except.ok.inj h
    obtain ⟨hhasMinX, hminX⟩ := Decoder.require_eq_ok_iff.1 ⟨_, hminX, hminX'⟩
    obtain ⟨hhasMinY, hminY⟩ := Decoder.require_eq_ok_iff.1 ⟨_, hminY, hminY'⟩
    obtain ⟨hhasMaxX, hmaxX⟩ := Decoder.require_eq_ok_iff.1 ⟨_, hmaxX, hmaxX'⟩
    obtain ⟨hhasMaxY, hmaxY⟩ := Decoder.require_eq_ok_iff.1 ⟨_, hmaxY, hmaxY'⟩
    exact ⟨.cons hhasMinX (.cons hhasMinY (.cons hhasMaxX (.cons hhasMaxY .nil))),
      ofItems_eq_ok_iff.2 ⟨_, _, _, _, rfl, hminX, hminY, hmaxX, hmaxY⟩⟩
  · rintro ⟨hhas, h⟩
    obtain ⟨_, _, _, _, hitems, hminX, hminY, hmaxX, hmaxY⟩ := ofItems_eq_ok_iff.1 h
    change [field fields minXName, field fields minYName, field fields maxXName,
      field fields maxYName] = _ at hitems
    cases hitems
    obtain ⟨minX, hminX, hminX'⟩ := Decoder.require_eq_ok_iff.2 ⟨hhas.head, hminX⟩
    obtain ⟨minY, hminY, hminY'⟩ := Decoder.require_eq_ok_iff.2 ⟨hhas.tail.head, hminY⟩
    obtain ⟨maxX, hmaxX, hmaxX'⟩ := Decoder.require_eq_ok_iff.2 ⟨hhas.tail.tail.head, hmaxX⟩
    obtain ⟨maxY, hmaxY, hmaxY'⟩ := Decoder.require_eq_ok_iff.2 ⟨hhas.tail.tail.tail.head, hmaxY⟩
    exact bind_eq_ok_iff.2 ⟨maxX, hmaxX, bind_eq_ok_iff.2 ⟨maxY, hmaxY,
      bind_eq_ok_iff.2 ⟨minX, hminX, bind_eq_ok_iff.2 ⟨minY, hminY,
        bind_eq_ok_iff.2 ⟨_, hminX', bind_eq_ok_iff.2 ⟨_, hminY',
          bind_eq_ok_iff.2 ⟨_, hmaxX', bind_eq_ok_iff.2 ⟨_, hmaxY', rfl⟩⟩⟩⟩⟩⟩⟩⟩

end Rectangle

namespace Circle

/-- The names of the parts of a circle in the order of declaration. -/
def names : List Text := [centerName, radiusName]

variable {fields : List (Text × Value)} {items : List Value} {c : Circle}

theorem ofItems_eq_ok_iff :
    ofItems items = .ok c ↔
      ∃ center radius, items = [center, radius] ∧ Point.decode center = .ok c.center ∧
        Decoder.number radius = .ok c.radius := by
  constructor
  · intro h
    obtain ⟨⟨_, _⟩, hcenter, h⟩ := bind_eq_ok_iff.1 h
    obtain ⟨⟨_, _⟩, hradius, h⟩ := bind_eq_ok_iff.1 h
    obtain ⟨_, hend, h⟩ := bind_eq_ok_iff.1 h
    obtain rfl := Except.ok.inj h
    obtain ⟨center, rfl, hdecodeCenter⟩ := Decoder.next_eq_ok_iff.1 hcenter
    obtain ⟨radius, rfl, hdecodeRadius⟩ := Decoder.next_eq_ok_iff.1 hradius
    obtain rfl := Decoder.finish_eq_ok_iff.1 hend
    exact ⟨center, radius, rfl, hdecodeCenter, hdecodeRadius⟩
  · rintro ⟨center, radius, rfl, hcenter, hradius⟩
    exact bind_eq_ok_iff.2 ⟨_, Decoder.next_eq_ok_iff.2 ⟨center, rfl, hcenter⟩,
      bind_eq_ok_iff.2 ⟨_, Decoder.next_eq_ok_iff.2 ⟨radius, rfl, hradius⟩, rfl⟩⟩

theorem ofFields_eq_ok_iff :
    ofFields fields = .ok c ↔ Has names fields ∧ ofItems (itemsOf names fields) = .ok c := by
  constructor
  · intro h
    obtain ⟨_, hcenter, h⟩ := bind_eq_ok_iff.1 h
    obtain ⟨_, hradius, h⟩ := bind_eq_ok_iff.1 h
    obtain ⟨_, hcenter', h⟩ := bind_eq_ok_iff.1 h
    obtain ⟨_, hradius', h⟩ := bind_eq_ok_iff.1 h
    obtain rfl := Except.ok.inj h
    obtain ⟨hhasCenter, hcenter⟩ := Decoder.require_eq_ok_iff.1 ⟨_, hcenter, hcenter'⟩
    obtain ⟨hhasRadius, hradius⟩ := Decoder.require_eq_ok_iff.1 ⟨_, hradius, hradius'⟩
    exact ⟨.cons hhasCenter (.cons hhasRadius .nil),
      ofItems_eq_ok_iff.2 ⟨_, _, rfl, hcenter, hradius⟩⟩
  · rintro ⟨hhas, h⟩
    obtain ⟨_, _, hitems, hcenter, hradius⟩ := ofItems_eq_ok_iff.1 h
    change [field fields centerName, field fields radiusName] = _ at hitems
    cases hitems
    obtain ⟨center, hcenter, hcenter'⟩ := Decoder.require_eq_ok_iff.2 ⟨hhas.head, hcenter⟩
    obtain ⟨radius, hradius, hradius'⟩ := Decoder.require_eq_ok_iff.2 ⟨hhas.tail.head, hradius⟩
    exact bind_eq_ok_iff.2 ⟨center, hcenter, bind_eq_ok_iff.2 ⟨radius, hradius,
      bind_eq_ok_iff.2 ⟨_, hcenter', bind_eq_ok_iff.2 ⟨_, hradius', rfl⟩⟩⟩⟩

end Circle

namespace Operation

theorem variantName_eq_name (operation : Operation) : operation.variantName = operation.name := by
  cases operation <;> rfl

/-- The names of stored variants are the names in queries. -/
theorem ofVariantName?_eq (name : Text) : ofVariantName? name = ofName? name := by
  unfold ofVariantName? ofName?
  simp only [variantName_eq_name]

/-- An operation is stored as its name, alone or with nothing as its content. -/
theorem decode_eq_ok_iff {v : Value} {operation : Operation} :
    decode v = .ok operation ↔
      ∃ name, (v = .text name ∨ v = .ofVariant name .null) ∧ ofName? name = some operation := by
  constructor
  · intro h
    obtain ⟨⟨name, content⟩, hvariant, h⟩ := bind_eq_ok_iff.1 h
    simp only [ofVariantName?_eq] at h
    split at h
    · cases h
    · next found hname =>
        obtain rfl := Except.ok.inj h
        rcases Decoder.variant_eq_ok_iff.1 hvariant with ⟨rfl, _⟩ | ⟨_, _, hcontent⟩
        · exact ⟨name, .inl rfl, hname⟩
        · cases hcontent
    · next found hname =>
        obtain rfl := Except.ok.inj h
        rcases Decoder.variant_eq_ok_iff.1 hvariant with ⟨_, hcontent⟩ | ⟨_, rfl, hcontent⟩
        · cases hcontent
        · obtain rfl := Option.some.inj hcontent
          exact ⟨name, .inr rfl, hname⟩
    · cases h
  · rintro ⟨name, rfl | rfl, hname⟩
    · have hvariant : Decoder.variant (.text name) = .ok (name, none) := rfl
      unfold decode
      rw [hvariant, ok_bind]
      simp only [ofVariantName?_eq, hname]
      rfl
    · have hvariant : Decoder.variant (.ofVariant name .null) = .ok (name, some .null) := rfl
      unfold decode
      rw [hvariant, ok_bind]
      simp only [ofVariantName?_eq, hname]
      rfl

end Operation

namespace Query

/-- The names of the fields that are needed, in the order of declaration. -/
def neededNames : List Text := [operationName, shapeName, cacheableName, calculateScoreName]

/-- The names of all fields in the order of declaration. -/
def names : List Text := neededNames ++ [minName, maxName]

variable {S : Type} {decodeShape : Decoder S} {fields : List (Text × Value)}
  {items : List Value} {q : Query S}

/-- The items of the array that a query is decoded from. -/
inductive MadeOf (decodeShape : Decoder S) : List Value → Query S → Prop
  | intro {v₁ v₂ v₃ v₄ v₅ v₆ operation shape cacheable calculateScore min max}
      (hoperation : Operation.decode v₁ = .ok operation) (hshape : decodeShape v₂ = .ok shape)
      (hcacheable : Decoder.bool v₃ = .ok cacheable)
      (hscore : Decoder.bool v₄ = .ok calculateScore)
      (hmin : Decoder.number.optional v₅ = .ok min)
      (hmax : Decoder.number.optional v₆ = .ok max) :
      MadeOf decodeShape [v₁, v₂, v₃, v₄, v₅, v₆]
        (ofStored operation shape cacheable calculateScore min max)

theorem ofItems_eq_ok_iff : ofItems decodeShape items = .ok q ↔ MadeOf decodeShape items q := by
  constructor
  · intro h
    obtain ⟨⟨_, _⟩, hoperation, h⟩ := bind_eq_ok_iff.1 h
    obtain ⟨⟨_, _⟩, hshape, h⟩ := bind_eq_ok_iff.1 h
    obtain ⟨⟨_, _⟩, hcacheable, h⟩ := bind_eq_ok_iff.1 h
    obtain ⟨⟨_, _⟩, hscore, h⟩ := bind_eq_ok_iff.1 h
    obtain ⟨⟨_, _⟩, hmin, h⟩ := bind_eq_ok_iff.1 h
    obtain ⟨⟨_, _⟩, hmax, h⟩ := bind_eq_ok_iff.1 h
    obtain ⟨_, hend, h⟩ := bind_eq_ok_iff.1 h
    obtain rfl := Except.ok.inj h
    obtain ⟨_, rfl, hdecodeOperation⟩ := Decoder.next_eq_ok_iff.1 hoperation
    obtain ⟨_, rfl, hdecodeShape⟩ := Decoder.next_eq_ok_iff.1 hshape
    obtain ⟨_, rfl, hdecodeCacheable⟩ := Decoder.next_eq_ok_iff.1 hcacheable
    obtain ⟨_, rfl, hdecodeScore⟩ := Decoder.next_eq_ok_iff.1 hscore
    obtain ⟨_, rfl, hdecodeMin⟩ := Decoder.next_eq_ok_iff.1 hmin
    obtain ⟨_, rfl, hdecodeMax⟩ := Decoder.next_eq_ok_iff.1 hmax
    obtain rfl := Decoder.finish_eq_ok_iff.1 hend
    exact .intro hdecodeOperation hdecodeShape hdecodeCacheable hdecodeScore hdecodeMin hdecodeMax
  · rintro ⟨hoperation, hshape, hcacheable, hscore, hmin, hmax⟩
    exact bind_eq_ok_iff.2 ⟨_, Decoder.next_eq_ok_iff.2 ⟨_, rfl, hoperation⟩,
      bind_eq_ok_iff.2 ⟨_, Decoder.next_eq_ok_iff.2 ⟨_, rfl, hshape⟩,
        bind_eq_ok_iff.2 ⟨_, Decoder.next_eq_ok_iff.2 ⟨_, rfl, hcacheable⟩,
          bind_eq_ok_iff.2 ⟨_, Decoder.next_eq_ok_iff.2 ⟨_, rfl, hscore⟩,
            bind_eq_ok_iff.2 ⟨_, Decoder.next_eq_ok_iff.2 ⟨_, rfl, hmin⟩,
              bind_eq_ok_iff.2 ⟨_, Decoder.next_eq_ok_iff.2 ⟨_, rfl, hmax⟩, rfl⟩⟩⟩⟩⟩⟩

theorem MadeOf.decode_head {o : Value} {rest : List Value} (h : MadeOf decodeShape (o :: rest) q) :
    Operation.decode o = .ok q.operation := by
  cases h with
  | intro hoperation _ _ _ _ _ => exact hoperation

theorem ofFields_eq_ok_iff :
    ofFields decodeShape fields = .ok q ↔
      Has neededNames fields ∧ ofItems decodeShape (itemsOf names fields) = .ok q := by
  constructor
  · intro h
    obtain ⟨_, hcacheable, h⟩ := bind_eq_ok_iff.1 h
    obtain ⟨_, hscore, h⟩ := bind_eq_ok_iff.1 h
    obtain ⟨_, hmax, h⟩ := bind_eq_ok_iff.1 h
    obtain ⟨_, hmin, h⟩ := bind_eq_ok_iff.1 h
    obtain ⟨_, hoperation, h⟩ := bind_eq_ok_iff.1 h
    obtain ⟨_, hshape, h⟩ := bind_eq_ok_iff.1 h
    obtain ⟨_, hoperation', h⟩ := bind_eq_ok_iff.1 h
    obtain ⟨_, hshape', h⟩ := bind_eq_ok_iff.1 h
    obtain ⟨_, hcacheable', h⟩ := bind_eq_ok_iff.1 h
    obtain ⟨_, hscore', h⟩ := bind_eq_ok_iff.1 h
    obtain rfl := Except.ok.inj h
    obtain ⟨hhasOperation, hoperation⟩ := Decoder.require_eq_ok_iff.1 ⟨_, hoperation, hoperation'⟩
    obtain ⟨hhasShape, hshape⟩ := Decoder.require_eq_ok_iff.1 ⟨_, hshape, hshape'⟩
    obtain ⟨hhasCacheable, hcacheable⟩ := Decoder.require_eq_ok_iff.1 ⟨_, hcacheable, hcacheable'⟩
    obtain ⟨hhasScore, hscore⟩ := Decoder.require_eq_ok_iff.1 ⟨_, hscore, hscore'⟩
    have hmin := Decoder.optional_field?_eq_ok_iff.1 ⟨_, hmin, rfl⟩
    have hmax := Decoder.optional_field?_eq_ok_iff.1 ⟨_, hmax, rfl⟩
    exact ⟨.cons hhasOperation (.cons hhasShape (.cons hhasCacheable (.cons hhasScore .nil))),
      ofItems_eq_ok_iff.2 (.intro hoperation hshape hcacheable hscore hmin hmax)⟩
  · rintro ⟨hhas, h⟩
    have hmade := ofItems_eq_ok_iff.1 h
    generalize hitems : itemsOf names fields = items at hmade
    obtain ⟨hoperation, hshape, hcacheable, hscore, hmin, hmax⟩ := hmade
    change [field fields operationName, field fields shapeName, field fields cacheableName,
      field fields calculateScoreName, field fields minName, field fields maxName] = _ at hitems
    cases hitems
    obtain ⟨_, hoperation, hoperation'⟩ := Decoder.require_eq_ok_iff.2 ⟨hhas.head, hoperation⟩
    obtain ⟨_, hshape, hshape'⟩ := Decoder.require_eq_ok_iff.2 ⟨hhas.tail.head, hshape⟩
    obtain ⟨_, hcacheable, hcacheable'⟩ :=
      Decoder.require_eq_ok_iff.2 ⟨hhas.tail.tail.head, hcacheable⟩
    obtain ⟨_, hscore, hscore'⟩ := Decoder.require_eq_ok_iff.2 ⟨hhas.tail.tail.tail.head, hscore⟩
    obtain ⟨_, hfoundMin, rfl⟩ := Decoder.optional_field?_eq_ok_iff.2 hmin
    obtain ⟨_, hfoundMax, rfl⟩ := Decoder.optional_field?_eq_ok_iff.2 hmax
    exact bind_eq_ok_iff.2 ⟨_, hcacheable, bind_eq_ok_iff.2 ⟨_, hscore,
      bind_eq_ok_iff.2 ⟨_, hfoundMax, bind_eq_ok_iff.2 ⟨_, hfoundMin,
        bind_eq_ok_iff.2 ⟨_, hoperation, bind_eq_ok_iff.2 ⟨_, hshape,
          bind_eq_ok_iff.2 ⟨_, hoperation', bind_eq_ok_iff.2 ⟨_, hshape',
            bind_eq_ok_iff.2 ⟨_, hcacheable', bind_eq_ok_iff.2 ⟨_, hscore', rfl⟩⟩⟩⟩⟩⟩⟩⟩⟩⟩

end Query

end SpatialQuery
