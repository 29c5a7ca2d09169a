import SpatialQuery.Proofs.Result
import SpatialQuery.Stored.Decoder

/-!
# Objects and the arrays of their fields

What is made of named fields is decoded from an object or from an array. The fields of an object
are looked up by name, and its order does not matter; the array that means the same has them in the
order of declaration, and nothing where a field is missing that may be.

`Agrees` says that a decoder makes the same of two values. A decoder of named fields does so for an
object and the array of its fields if it decodes both from the same values.
-/

namespace SpatialQuery

namespace Stored

/-- The value under a name, or nothing where the name is missing. -/
def field (fields : List (Text × Value)) (name : Text) : Value :=
  (fields.lookup name).getD .null

/-- The values under some names, in the order of the names. -/
def itemsOf (names : List Text) (fields : List (Text × Value)) : List Value :=
  names.map (field fields)

/-- No name is missing from an object. -/
def Has (names : List Text) (fields : List (Text × Value)) : Prop :=
  ∀ name ∈ names, (fields.lookup name).isSome = true

section Has

variable {name : Text} {names : List Text} {fields : List (Text × Value)}

theorem Has.nil : Has [] fields := fun _ h => by cases h

theorem Has.cons (h : (fields.lookup name).isSome = true) (hnames : Has names fields) :
    Has (name :: names) fields := List.forall_mem_cons.2 ⟨h, hnames⟩

theorem Has.head (h : Has (name :: names) fields) : (fields.lookup name).isSome = true :=
  h name List.mem_cons_self

theorem Has.tail (h : Has (name :: names) fields) : Has names fields :=
  (List.forall_mem_cons.1 h).2

end Has

/-- An object with the fields that are needed, and the array of its fields. -/
inductive Listed (needed names : List Text) : Value → Value → Prop
  | intro {fields} (h : Has needed fields) :
      Listed needed names (.object fields) (.array (itemsOf names fields))

/-- Two objects differ in nothing but the value under a name that both of them have. -/
structure Replaced (name : Text) (v w : Value) (fields others : List (Text × Value)) : Prop where
  lookup_old : fields.lookup name = some v
  lookup_new : others.lookup name = some w
  lookup_other : ∀ other, other ≠ name → others.lookup other = fields.lookup other

section Replaced

variable {name : Text} {v w : Value} {fields others : List (Text × Value)}

theorem replaced_of_append (before after : List (Text × Value))
    (hbefore : before.lookup name = none) :
    Replaced name v w (before ++ (name, v) :: after) (before ++ (name, w) :: after) where
  lookup_old := by rw [List.lookup_append, hbefore, List.lookup_cons_self, Option.none_or]
  lookup_new := by rw [List.lookup_append, hbefore, List.lookup_cons_self, Option.none_or]
  lookup_other := by
    intro other hother
    have hne : (other == name) = false := beq_false_of_ne hother
    simp only [List.lookup_append, List.lookup_cons, hne]

theorem Replaced.has_iff (h : Replaced name v w fields others) (names : List Text) :
    Has names fields ↔ Has names others := by
  have hsome : ∀ other, (others.lookup other).isSome = (fields.lookup other).isSome := by
    intro other
    by_cases hother : other = name
    · rw [hother, h.lookup_old, h.lookup_new, Option.isSome_some, Option.isSome_some]
    · rw [h.lookup_other other hother]
  unfold Has
  simp only [hsome]

theorem Replaced.field_old (h : Replaced name v w fields others) : field fields name = v := by
  rw [field, h.lookup_old, Option.getD_some]

theorem Replaced.field_new (h : Replaced name v w fields others) : field others name = w := by
  rw [field, h.lookup_new, Option.getD_some]

theorem Replaced.field_other (h : Replaced name v w fields others) {other : Text}
    (hother : other ≠ name) : field others other = field fields other := by
  rw [field, h.lookup_other other hother, field]

end Replaced

namespace Decoder

variable {α β : Type} {decode : Decoder α} {fields : List (Text × Value)} {name : Text}

/-- A field that is needed is decoded if it is there and its value is decoded. -/
theorem require_eq_ok_iff {a : α} :
    (∃ found, decode.field? fields name = .ok found ∧ require name found = .ok a) ↔
      (fields.lookup name).isSome = true ∧ decode (field fields name) = .ok a := by
  unfold field? field
  cases fields.lookup name with
  | none =>
      constructor
      · rintro ⟨found, hfound, hrequire⟩
        obtain rfl := Except.ok.inj hfound
        cases hrequire
      · rintro ⟨h, _⟩
        cases h
  | some v =>
      constructor
      · rintro ⟨found, hfound, hrequire⟩
        obtain ⟨b, hb, rfl⟩ := map_eq_ok_iff.1 hfound
        obtain rfl := Except.ok.inj hrequire
        exact ⟨rfl, hb⟩
      · rintro ⟨_, h⟩
        exact ⟨some a, map_eq_ok_iff.2 ⟨a, h, rfl⟩, rfl⟩

/-- A field that may be missing is decoded as if it were nothing. -/
theorem optional_field?_eq_ok_iff {a : Option α} :
    (∃ found, decode.optional.field? fields name = .ok found ∧ found.getD none = a) ↔
      decode.optional (field fields name) = .ok a := by
  unfold field? field
  cases fields.lookup name with
  | none =>
      constructor
      · rintro ⟨found, hfound, rfl⟩
        obtain rfl := Except.ok.inj hfound
        rfl
      · intro h
        obtain rfl := Except.ok.inj h
        exact ⟨none, rfl, rfl⟩
  | some v =>
      constructor
      · rintro ⟨found, hfound, rfl⟩
        obtain ⟨b, hb, rfl⟩ := map_eq_ok_iff.1 hfound
        exact hb
      · intro h
        exact ⟨some a, map_eq_ok_iff.2 ⟨a, h, rfl⟩, rfl⟩

theorem next_eq_ok_iff {items rest : List Value} {a : α} :
    decode.next items = .ok (a, rest) ↔ ∃ v, items = v :: rest ∧ decode v = .ok a := by
  cases items with
  | nil =>
      constructor
      · intro h
        cases h
      · rintro ⟨_, h, _⟩
        cases h
  | cons v items =>
      constructor
      · intro h
        obtain ⟨b, hb, heq⟩ := map_eq_ok_iff.1 h
        obtain ⟨rfl, rfl⟩ := Prod.mk.inj heq
        exact ⟨v, rfl, hb⟩
      · rintro ⟨_, heq, h⟩
        obtain ⟨rfl, rfl⟩ := List.cons.inj heq
        exact map_eq_ok_iff.2 ⟨a, h, rfl⟩

theorem finish_eq_ok_iff {items : List Value} {u : Unit} : finish items = .ok u ↔ items = [] := by
  cases items <;> simp [finish]

theorem variant_eq_ok_iff {v : Value} {content : Option Value} :
    variant v = .ok (name, content) ↔
      v = .text name ∧ content = none ∨
        ∃ inner, v = .ofVariant name inner ∧ content = some inner := by
  constructor
  · intro h
    unfold variant at h
    split at h
    · obtain ⟨rfl, rfl⟩ := Prod.mk.inj (Except.ok.inj h)
      exact .inl ⟨rfl, rfl⟩
    · next inner =>
        obtain ⟨rfl, rfl⟩ := Prod.mk.inj (Except.ok.inj h)
        exact .inr ⟨inner, rfl, rfl⟩
    · cases h
    · cases h
  · rintro (⟨rfl, rfl⟩ | ⟨inner, rfl, rfl⟩)
    · rfl
    · rfl

/-- A decoder makes the same of two values, if it makes anything of them. -/
def Agrees (decode : Decoder α) (v w : Value) : Prop := ∀ a, decode v = .ok a ↔ decode w = .ok a

theorem Agrees.map {v w : Value} (h : decode.Agrees v w) (f : α → β) :
    Decoder.Agrees (fun v => (decode v).map f) v w := by
  intro b
  rw [map_eq_ok_iff, map_eq_ok_iff]
  simp only [h _]

theorem agrees_of_listed {needed names : List Text}
    {ofFields : List (Text × Value) → Except DecodeError α}
    {ofItems : List Value → Except DecodeError α}
    (hforms : ∀ fields a, ofFields fields = .ok a ↔
      Has needed fields ∧ ofItems (itemsOf names fields) = .ok a)
    {v w : Value} (h : Listed needed names v w) : (fieldsOrItems ofFields ofItems).Agrees v w := by
  intro a
  cases h with
  | intro hhas => exact (hforms _ a).trans (and_iff_right hhas)

end Decoder

end Stored

end SpatialQuery
