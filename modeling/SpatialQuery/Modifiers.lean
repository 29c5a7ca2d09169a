import SpatialQuery.Text.Basic

/-!
# Modifiers

The modifiers of a query are bindings of keys to values. They are kept in ascending order of their
keys, each key once; when a key is bound again the later value takes the place of the earlier one.

A modifier is written as `key=value`, cut at the first equals sign. A token with no equals sign,
or with one at its start, is both its key and its value.
-/

namespace SpatialQuery

/-- A key and the value that it is bound to. -/
abbrev Binding := Text × Text

namespace Binding

/-- Bindings are ordered by their keys. -/
def Ascending (a b : Binding) : Prop := a.1 < b.1

/-- Puts a binding into an ascending list, in the place of a binding of the same key. -/
def place (new : Binding) : List Binding → List Binding
  | [] => [new]
  | old :: rest =>
    if new.1 < old.1 then new :: old :: rest
    else if new.1 = old.1 then new :: rest
    else old :: place new rest

/-- A binding of the placed list is the new one or an old one. -/
theorem eq_or_mem_of_mem_place {new b : Binding} {bindings : List Binding}
    (h : b ∈ place new bindings) : b = new ∨ b ∈ bindings := by
  induction bindings with
  | nil => simpa [place] using h
  | cons old rest ih =>
    unfold place at h
    split at h
    · simpa using h
    · split at h
      · rcases List.mem_cons.1 h with rfl | h
        · exact .inl rfl
        · exact .inr (List.mem_cons_of_mem _ h)
      · rcases List.mem_cons.1 h with rfl | h
        · exact .inr List.mem_cons_self
        · exact (ih h).imp_right (List.mem_cons_of_mem _)

/-- Placing a binding keeps a list in ascending order of keys. -/
theorem ascending_place (new : Binding) {bindings : List Binding}
    (h : bindings.Pairwise Ascending) : (place new bindings).Pairwise Ascending := by
  induction bindings with
  | nil => simp [place]
  | cons old rest ih =>
    have ⟨hold, hrest⟩ := List.pairwise_cons.1 h
    unfold place
    split
    · rename_i hlt
      refine List.pairwise_cons.2 ⟨fun b hb => ?_, h⟩
      rcases List.mem_cons.1 hb with rfl | hb
      · exact hlt
      · exact List.lt_trans hlt (hold b hb)
    · rename_i hlt
      split
      · rename_i heq
        exact List.pairwise_cons.2 ⟨fun b hb => show new.1 < b.1 from heq ▸ hold b hb, hrest⟩
      · rename_i hne
        refine List.pairwise_cons.2 ⟨fun b hb => ?_, ih hrest⟩
        rcases eq_or_mem_of_mem_place hb with rfl | hb
        · show old.1 < b.1
          grind
        · exact hold b hb

/-- Placing a binding binds its key and leaves all other keys alone. -/
theorem lookup_place (new : Binding) (key : Text) {bindings : List Binding}
    (h : bindings.Pairwise Ascending) :
    (place new bindings).lookup key = if key = new.1 then some new.2 else bindings.lookup key := by
  induction bindings with
  | nil =>
    obtain ⟨newKey, newValue⟩ := new
    simp [place]
  | cons old rest ih =>
    have ⟨_, hrest⟩ := List.pairwise_cons.1 h
    obtain ⟨newKey, newValue⟩ := new
    obtain ⟨oldKey, oldValue⟩ := old
    unfold place
    by_cases hlt : newKey < oldKey
    · rw [if_pos hlt]
      by_cases hk : key = newKey
      · subst hk
        simp
      · simp [List.lookup_cons, hk, beq_eq_false_iff_ne.2 hk]
    · rw [if_neg hlt]
      by_cases heq : newKey = oldKey
      · subst heq
        by_cases hk : key = newKey
        · subst hk
          simp
        · simp [List.lookup_cons, hk, beq_eq_false_iff_ne.2 hk]
      · rw [if_neg heq]
        by_cases hk : key = oldKey
        · subst hk
          simp [Ne.symm heq]
        · simp only [List.lookup_cons, beq_eq_false_iff_ne.2 hk]
          exact ih hrest

/-- Without the bindings of one key, all other keys have their values still. -/
theorem lookup_filter_ne (key other : Text) (bindings : List Binding) :
    (bindings.filter (·.1 != key)).lookup other =
      if other = key then none else bindings.lookup other := by
  induction bindings with
  | nil => simp
  | cons b rest ih =>
    obtain ⟨bKey, bValue⟩ := b
    by_cases hb : bKey = key
    · subst hb
      rw [List.filter_cons_of_neg (by simp), ih]
      by_cases ho : other = bKey
      · rw [if_pos ho, if_pos ho]
      · rw [if_neg ho, if_neg ho, List.lookup_cons, beq_eq_false_iff_ne.2 ho]
    · rw [List.filter_cons_of_pos (by simpa using hb), List.lookup_cons, List.lookup_cons, ih]
      by_cases ho : other = bKey
      · subst ho
        simp [hb]
      · rw [beq_eq_false_iff_ne.2 ho]

/-- The binding that a token writes. -/
def ofToken (token : Text) : Binding :=
  match token.cutFirst '=' with
  | some (key, value) => if key.isEmpty then (token, token) else (key, value)
  | none => (token, token)

end Binding

/-- Bindings of keys to values, each key once. -/
structure Modifiers where
  /-- The bindings in ascending order of their keys. -/
  bindings : List Binding
  /-- The keys ascend. -/
  ascending : bindings.Pairwise Binding.Ascending
deriving DecidableEq

namespace Modifiers

/-- No bindings. -/
def empty : Modifiers := ⟨[], .nil⟩

/-- Binds a key, whether it was bound before or not. -/
def insert (m : Modifiers) (new : Binding) : Modifiers :=
  ⟨Binding.place new m.bindings, Binding.ascending_place new m.ascending⟩

/-- The value of a key. -/
def get? (m : Modifiers) (key : Text) : Option Text := m.bindings.lookup key

/-- Takes away the binding of a key, if there is one. -/
def erase (m : Modifiers) (key : Text) : Modifiers :=
  ⟨m.bindings.filter (·.1 != key), m.ascending.filter _⟩

/-- The value of a key, and the bindings of all other keys. -/
def take (m : Modifiers) (key : Text) : Option Text × Modifiers := (m.get? key, m.erase key)

/-- The keys in ascending order. -/
def keys (m : Modifiers) : List Text := m.bindings.map Prod.fst

/-- Nothing is bound. -/
def isEmpty (m : Modifiers) : Bool := m.bindings.isEmpty

/-- The bindings of a list of tokens, of which the later ones win. -/
def ofTokens (tokens : List Text) : Modifiers :=
  tokens.foldl (fun m token => m.insert (Binding.ofToken token)) empty

/-- The characters that stand between modifiers. -/
def isSeparator (c : Char) : Bool := c == ' ' || c == '\t' || c == '\n'

/-- The bindings that a text writes. -/
def ofText (t : Text) : Modifiers := ofTokens (t.fields isSeparator)

/-- A key that is bound has its new value, and all other keys have their old ones. -/
theorem get?_insert (m : Modifiers) (new : Binding) (key : Text) :
    (m.insert new).get? key = if key = new.1 then some new.2 else m.get? key :=
  Binding.lookup_place new key m.ascending

/-- A key whose binding is taken away is bound no more, and all other keys have their old values. -/
theorem get?_erase (m : Modifiers) (key other : Text) :
    (m.erase key).get? other = if other = key then none else m.get? other :=
  Binding.lookup_filter_ne key other m.bindings

end Modifiers

end SpatialQuery
