import SpatialQuery.Proofs.Stored.Shape

/-!
# Objects that are replaced by arrays

A stored query means the same when an object in it is replaced by the array of its fields: the whole
query, what belongs to the variant of its shape, or the center of a circle. `Relisted` is one such
replacement, and `decode_eq_ok_iff_of_relisted` follows any number of them. However a query is
stored, its operation is found by the stored name.
-/

namespace SpatialQuery

open Stored

theorem Point.agrees_of_listed {v w : Value} (h : Listed names names v w) : decode.Agrees v w :=
  Decoder.agrees_of_listed (fun _ _ => ofFields_eq_ok_iff) h

theorem Rectangle.agrees_of_listed {v w : Value} (h : Listed names names v w) :
    decode.Agrees v w :=
  Decoder.agrees_of_listed (fun _ _ => ofFields_eq_ok_iff) h

namespace Circle

variable {fields others : List (Text × Value)} {v w : Value}

theorem agrees_of_listed (h : Listed names names v w) : decode.Agrees v w :=
  Decoder.agrees_of_listed (fun _ _ => ofFields_eq_ok_iff) h

theorem agrees_of_items (h : Point.decode.Agrees v w) (rest : List Value) :
    decode.Agrees (.array (v :: rest)) (.array (w :: rest)) := by
  intro c
  change ofItems (v :: rest) = .ok c ↔ ofItems (w :: rest) = .ok c
  rw [ofItems_eq_ok_iff, ofItems_eq_ok_iff]
  simp [h c.center]

theorem agrees_of_fields (h : Point.decode.Agrees v w)
    (hreplaced : Replaced centerName v w fields others) :
    decode.Agrees (.object fields) (.object others) := by
  intro c
  have hold : itemsOf names fields = [v, field fields radiusName] := by
    rw [← hreplaced.field_old]
    rfl
  have hnew : itemsOf names others = [w, field fields radiusName] := by
    rw [← hreplaced.field_new, ← hreplaced.field_other (by decide)]
    rfl
  change ofFields fields = .ok c ↔ ofFields others = .ok c
  rw [ofFields_eq_ok_iff, ofFields_eq_ok_iff, hreplaced.has_iff, hold, hnew]
  exact and_congr_right fun _ => agrees_of_items h _ c

end Circle

namespace Shape

/-- An object in a stored shape is replaced by the array of its fields. -/
inductive Relisted : Value → Value → Prop
  | point {v w} (h : Listed Point.names Point.names v w) :
      Relisted (.ofVariant pointName v) (.ofVariant pointName w)
  | rectangle {v w} (h : Listed Rectangle.names Rectangle.names v w) :
      Relisted (.ofVariant rectangleName v) (.ofVariant rectangleName w)
  | circle {v w} (h : Listed Circle.names Circle.names v w) :
      Relisted (.ofVariant circleName v) (.ofVariant circleName w)
  | centerField {v w fields others} (h : Listed Point.names Point.names v w)
      (hreplaced : Replaced Circle.centerName v w fields others) :
      Relisted (.ofVariant circleName (.object fields)) (.ofVariant circleName (.object others))
  | centerItem {v w} (h : Listed Point.names Point.names v w) (rest : List Value) :
      Relisted (.ofVariant circleName (.array (v :: rest)))
        (.ofVariant circleName (.array (w :: rest)))

theorem agrees_ofVariant {name : Text} {decodeContent : Decoder Shape} {v w : Value}
    (hname : decoderOf? name = some decodeContent) (h : decodeContent.Agrees v w) :
    decode.Agrees (.ofVariant name v) (.ofVariant name w) := by
  intro s
  rw [decode_ofVariant hname, decode_ofVariant hname]
  exact h s

theorem agrees_of_relisted {v w : Value} (h : Relisted v w) : decode.Agrees v w := by
  cases h with
  | point h => exact agrees_ofVariant decoderOf?_pointName ((Point.agrees_of_listed h).map point)
  | rectangle h =>
      exact agrees_ofVariant decoderOf?_rectangleName ((Rectangle.agrees_of_listed h).map rectangle)
  | circle h =>
      exact agrees_ofVariant decoderOf?_circleName ((Circle.agrees_of_listed h).map circle)
  | centerField h hreplaced =>
      exact agrees_ofVariant decoderOf?_circleName
        ((Circle.agrees_of_fields (Point.agrees_of_listed h) hreplaced).map circle)
  | centerItem h rest =>
      exact agrees_ofVariant decoderOf?_circleName
        ((Circle.agrees_of_items (Point.agrees_of_listed h) rest).map circle)

end Shape

namespace Query

/-- An object in a stored query is replaced by the array of its fields: the whole query, or an
object in its shape. -/
inductive Relisted : Value → Value → Prop
  | whole {v w} (h : Listed neededNames names v w) : Relisted v w
  | shapeField {v w fields others} (h : Shape.Relisted v w)
      (hreplaced : Replaced shapeName v w fields others) :
      Relisted (.object fields) (.object others)
  | shapeItem {v w} (h : Shape.Relisted v w) (operation : Value) (rest : List Value) :
      Relisted (.array (operation :: v :: rest)) (.array (operation :: w :: rest))

/-- The value that stands for the operation in a stored query. -/
def storedOperation? : Value → Option Value
  | .object fields => fields.lookup operationName
  | .array (operation :: _) => some operation
  | _ => none

variable {S : Type} {decodeShape : Decoder S} {fields others : List (Text × Value)}
  {q : Query S} {v w : Value}

theorem agrees_of_listed (h : Listed neededNames names v w) :
    (decode decodeShape).Agrees v w :=
  Decoder.agrees_of_listed (fun _ _ => ofFields_eq_ok_iff) h

theorem agrees_of_items (h : decodeShape.Agrees v w) (operation : Value) (rest : List Value) :
    (decode decodeShape).Agrees (.array (operation :: v :: rest))
      (.array (operation :: w :: rest)) := by
  have hmade : ∀ {v w q}, decodeShape.Agrees v w →
      MadeOf decodeShape (operation :: v :: rest) q →
        MadeOf decodeShape (operation :: w :: rest) q := by
    intro v w q h hmade
    cases hmade with
    | intro hoperation hshape hcacheable hscore hmin hmax =>
        exact .intro hoperation ((h _).1 hshape) hcacheable hscore hmin hmax
  intro q
  change ofItems decodeShape (operation :: v :: rest) = .ok q ↔
    ofItems decodeShape (operation :: w :: rest) = .ok q
  rw [ofItems_eq_ok_iff, ofItems_eq_ok_iff]
  exact ⟨hmade h, hmade fun a => (h a).symm⟩

theorem agrees_of_fields (h : decodeShape.Agrees v w)
    (hreplaced : Replaced shapeName v w fields others) :
    (decode decodeShape).Agrees (.object fields) (.object others) := by
  intro q
  have hold : itemsOf names fields = [field fields operationName, v, field fields cacheableName,
      field fields calculateScoreName, field fields minName, field fields maxName] := by
    rw [← hreplaced.field_old]
    rfl
  have hnew : itemsOf names others = [field others operationName, w, field others cacheableName,
      field others calculateScoreName, field others minName, field others maxName] := by
    rw [← hreplaced.field_new]
    rfl
  simp (disch := decide) only [hreplaced.field_other] at hnew
  change ofFields decodeShape fields = .ok q ↔ ofFields decodeShape others = .ok q
  rw [ofFields_eq_ok_iff, ofFields_eq_ok_iff, hreplaced.has_iff, hold, hnew]
  exact and_congr_right fun _ => agrees_of_items h _ _ q

theorem agrees_of_relisted (h : Relisted v w) : (decode Shape.decode).Agrees v w := by
  cases h with
  | whole h => exact agrees_of_listed h
  | shapeField h hreplaced => exact agrees_of_fields (Shape.agrees_of_relisted h) hreplaced
  | shapeItem h operation rest =>
      exact agrees_of_items (Shape.agrees_of_relisted h) operation rest

theorem agrees_of_reflTransGen (h : Relation.ReflTransGen Relisted v w) :
    (decode Shape.decode).Agrees v w := by
  induction h with
  | refl => exact fun _ => Iff.rfl
  | tail _ hstep ih => exact fun q => (ih q).trans (agrees_of_relisted hstep q)

theorem exists_storedOperation? (h : decode decodeShape v = .ok q) :
    ∃ o, storedOperation? v = some o ∧ Operation.decode o = .ok q.operation := by
  cases v with
  | object fields =>
      obtain ⟨hhas, hitems⟩ := ofFields_eq_ok_iff.1 h
      obtain ⟨o, ho⟩ := Option.isSome_iff_exists.1 hhas.head
      have hdecode : Operation.decode (field fields operationName) = .ok q.operation :=
        (ofItems_eq_ok_iff.1 hitems).decode_head
      rw [field, ho] at hdecode
      exact ⟨o, ho, hdecode⟩
  | array items =>
      have hmade := ofItems_eq_ok_iff.1 h
      cases items with
      | nil => cases hmade
      | cons o rest => exact ⟨o, rfl, hmade.decode_head⟩
  | _ => cases h

theorem exists_storedName (h : decode decodeShape v = .ok q) :
    ∃ name, (storedOperation? v = some (.text name) ∨
      storedOperation? v = some (.ofVariant name .null)) ∧
        Operation.ofName? name = some q.operation := by
  obtain ⟨o, ho, hdecode⟩ := exists_storedOperation? h
  obtain ⟨name, rfl | rfl, hname⟩ := Operation.decode_eq_ok_iff.1 hdecode
  · exact ⟨name, .inl ho, hname⟩
  · exact ⟨name, .inr ho, hname⟩

/-- No other names are taken than those of operations. -/
theorem exists_error_of_storedName {name : Text} {o : Value} (ho : storedOperation? v = some o)
    (hvalue : o = .text name ∨ ∃ content, o = .ofVariant name content)
    (hname : Operation.ofName? name = none) : ∃ e, decode decodeShape v = .error e := by
  cases hdecode : decode decodeShape v with
  | error e => exact ⟨e, rfl⟩
  | ok q =>
      obtain ⟨_, ho', hoperation⟩ := exists_storedOperation? hdecode
      obtain rfl := Option.some.inj (ho.symm.trans ho')
      obtain ⟨stored, hstored, hfound⟩ := Operation.decode_eq_ok_iff.1 hoperation
      have hsame : stored = name := by
        rcases hvalue with rfl | ⟨content, rfl⟩ <;> rcases hstored with h | h <;> cases h <;> rfl
      rw [hsame, hname] at hfound
      cases hfound

/-- All that is decoded stays the same when objects are replaced by the arrays of their fields. The
operation that is decoded is the one whose name is stored, and no other name is taken. -/
theorem decode_eq_ok_iff_of_relisted :
    (∀ (fields : List (Text × Value)), Has neededNames fields → ∀ q : Query Shape,
      decode Shape.decode (.object fields) = .ok q ↔
        decode Shape.decode (.array (itemsOf names fields)) = .ok q) ∧
      (∀ v w, Relation.ReflTransGen Relisted v w → ∀ q : Query Shape,
        decode Shape.decode v = .ok q ↔ decode Shape.decode w = .ok q) ∧
      (∀ v (q : Query Shape), decode Shape.decode v = .ok q → ∃ name,
        (storedOperation? v = some (.text name) ∨
          storedOperation? v = some (.ofVariant name .null)) ∧
            Operation.ofName? name = some q.operation) ∧
      ∀ v o name, storedOperation? v = some o →
        (o = .text name ∨ ∃ content, o = .ofVariant name content) →
          Operation.ofName? name = none → ∃ e, decode Shape.decode v = .error e := by
  refine ⟨?_, ?_, ?_, ?_⟩
  · intro fields hhas
    exact agrees_of_listed (.intro hhas)
  · intro v w h
    exact agrees_of_reflTransGen h
  · intro v q h
    exact exists_storedName h
  · intro v o name ho hvalue hname
    exact exists_error_of_storedName ho hvalue hname

/-- A query whose fields are out of order, and its array with the center of the circle as an array,
too. -/
theorem decode_eq_ok_iff_of_relisted_of_circle :
    let circle (center : Value) : Value := .ofVariant Shape.circleName
      (.object [(Circle.radiusName, .number .zero), (Circle.centerName, center)])
    let point : Value := .object [(Point.yName, .number .zero), (Point.xName, .number .zero)]
    let v : Value := .object [(shapeName, circle point), (calculateScoreName, .bool true),
      (cacheableName, .bool false), (operationName, .text "Distance".toList)]
    let w : Value := .array [.text "Distance".toList,
      circle (.array [.number .zero, .number .zero]), .bool false, .bool true, .null, .null]
    (∃ q, decode Shape.decode v = .ok q ∧ decode Shape.decode w = .ok q ∧
      Operation.ofName? "Distance".toList = some q.operation) ∧
      ∃ e, decode Shape.decode (.array [.text "distance".toList]) = .error e := by
  intro circle point v w
  have hcenter : Listed Point.names Point.names point (.array [.number .zero, .number .zero]) :=
    .intro (.cons rfl (.cons rfl .nil))
  have hshape : Shape.Relisted (circle point) (circle (.array [.number .zero, .number .zero])) :=
    .centerField hcenter (replaced_of_append [(Circle.radiusName, .number .zero)] [] rfl)
  have hcenterStep := Relisted.shapeField hshape (replaced_of_append []
    [(calculateScoreName, .bool true), (cacheableName, .bool false),
      (operationName, .text "Distance".toList)] rfl)
  have hsteps : Relation.ReflTransGen Relisted v w :=
    .head hcenterStep (.single (.whole
      (.intro (.cons rfl (.cons rfl (.cons rfl (.cons rfl .nil)))))))
  have hread : decode Shape.decode v =
      .ok ⟨.distance, .circle ⟨⟨.zero, .zero⟩, .zero⟩, false, true, none, none⟩ := by
    decide +kernel
  constructor
  · obtain ⟨name, hstored, hname⟩ := decode_eq_ok_iff_of_relisted.2.2.1 v _ hread
    refine ⟨_, hread, (decode_eq_ok_iff_of_relisted.2.1 v w hsteps _).1 hread, ?_⟩
    rcases hstored with h | h <;> cases h
    exact hname
  · exact decode_eq_ok_iff_of_relisted.2.2.2 _ _ _ rfl (.inl rfl) (by decide)

end Query

end SpatialQuery
