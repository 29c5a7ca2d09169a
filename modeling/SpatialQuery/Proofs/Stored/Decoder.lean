import SpatialQuery.Proofs.Stored.Fields

/-!
# What decoders make of stored values

A number is stored so that it is decoded again if it is finite, and so that nothing is found in its
place otherwise. A bound may be nothing and a coordinate may not, so the first is lost and the
second is refused.

`Yields` is a postcondition of a decoder. Each of the ways to put decoders together passes it on,
so what is known of single numbers carries over to whatever they are fields of.
-/

namespace SpatialQuery.Stored

/-- A value of the storage format, in which every number is finite. -/
inductive Storable : Value → Prop
  | null : Storable .null
  | bool (b : Bool) : Storable (.bool b)
  | number {x : Binary64} (h : x.isFinite = true) : Storable (.number x)
  | text (t : Text) : Storable (.text t)
  | array {items : List Value} (h : ∀ v ∈ items, Storable v) : Storable (.array items)
  | object {fields : List (Text × Value)} (h : ∀ f ∈ fields, Storable f.2) :
      Storable (.object fields)

theorem storable_ofNumber (x : Binary64) : Storable (.ofNumber x) := by
  unfold Value.ofNumber
  split
  · next h => exact .number h
  · exact .null

theorem storable_ofOptional (x : Option Binary64) : Storable (.ofOptional x) := by
  cases x with
  | none => exact .null
  | some x => exact storable_ofNumber x

namespace Decoder

variable {α : Type}

theorem number_ofNumber (x : Binary64) :
    number (.ofNumber x) = if x.isFinite then .ok x else .error .invalidType := by
  unfold Value.ofNumber
  cases x.isFinite <;> rfl

/-- A bound that is not finite is stored as nothing. -/
theorem optional_number_ofOptional (x : Option Binary64) :
    number.optional (.ofOptional x) = .ok (x.filter Binary64.isFinite) := by
  cases x with
  | none => rfl
  | some x =>
      change number.optional (.ofNumber x) = _
      rw [Option.filter_some]
      unfold Value.ofNumber
      cases x.isFinite <;> rfl

theorem field?_of_lookup {fields : List (Text × Value)} {name : Text} {v : Value}
    (h : fields.lookup name = some v) (decode : Decoder α) :
    decode.field? fields name = (decode v).map some := by
  unfold field?
  rw [h]

section Yields

variable {decode : Decoder α} {P : α → Prop}

/-- What is decoded from a value of the storage format has a property. -/
def Yields (decode : Decoder α) (P : α → Prop) : Prop :=
  ∀ v, Storable v → ∀ a, decode v = .ok a → P a

theorem yields_number : number.Yields fun x => x.isFinite = true := by
  intro v hv x h
  cases hv with
  | number hfinite =>
      obtain rfl := Except.ok.inj h
      exact hfinite
  | _ => cases h

theorem Yields.optional (hdecode : decode.Yields P) :
    decode.optional.Yields fun found => ∀ a ∈ found, P a := by
  intro v hv found h a ha
  unfold Decoder.optional at h
  split at h
  · obtain rfl := Except.ok.inj h
    cases ha
  · obtain ⟨b, hb, rfl⟩ := map_eq_ok_iff.1 h
    obtain rfl := Option.some.inj ha
    exact hdecode v hv b hb

theorem storable_of_mem_itemsOf {names : List Text} {fields : List (Text × Value)}
    (hfields : ∀ f ∈ fields, Storable f.2) : ∀ v ∈ itemsOf names fields, Storable v := by
  intro v hv
  obtain ⟨name, _, rfl⟩ := List.mem_map.1 hv
  unfold field
  cases hlookup : fields.lookup name with
  | none => exact .null
  | some v =>
      obtain ⟨before, after, rfl, _⟩ := List.lookup_eq_some_iff.1 hlookup
      exact hfields (name, v) (by simp)

/-- What is decoded from arrays is all that is decoded from objects. -/
theorem yields_of_items {needed names : List Text}
    {ofFields : List (Text × Value) → Except DecodeError α}
    {ofItems : List Value → Except DecodeError α}
    (hforms : ∀ fields a, ofFields fields = .ok a ↔
      Has needed fields ∧ ofItems (itemsOf names fields) = .ok a)
    (hitems : ∀ items, (∀ v ∈ items, Storable v) → ∀ a, ofItems items = .ok a → P a) :
    (fieldsOrItems ofFields ofItems).Yields P := by
  intro v hv a h
  cases hv with
  | array hstorable => exact hitems _ hstorable a h
  | object hstorable =>
      exact hitems _ (storable_of_mem_itemsOf hstorable) a ((hforms _ a).1 h).2
  | _ => cases h

theorem storable_of_variant {v content : Value} {name : Text} (hv : Storable v)
    (h : variant v = .ok (name, some content)) : Storable content := by
  rcases variant_eq_ok_iff.1 h with ⟨_, hcontent⟩ | ⟨inner, rfl, hcontent⟩
  · cases hcontent
  · obtain rfl := Option.some.inj hcontent
    cases hv with
    | object hfields => exact hfields _ List.mem_cons_self

end Yields

end Decoder

end SpatialQuery.Stored
