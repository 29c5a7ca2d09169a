import SpatialQuery.Proofs.Modifiers.Order

/-!
# The bindings that can be written

Not every map of texts to texts comes from a text: a token has no separators in it, and is cut at
its first equals sign. `IsWritable` says which bindings a token can write, and `token` writes one.
The modifiers that come from a text are those whose bindings are all writable; their tokens, in any
order, are a text that they come from.
-/

namespace SpatialQuery

namespace Binding

/-- A key is not empty, and neither the key nor the value has a separator in it. There is no equals
sign in the key, or it begins with one and is its own value. -/
structure IsWritable (b : Binding) : Prop where
  key_ne_nil : b.1 ≠ []
  separator_not_mem : ∀ c ∈ [' ', '\t', '\n'], c ∉ b.1 ∧ c ∉ b.2
  equals : '=' ∉ b.1 ∨ b.1.head? = some '=' ∧ b.2 = b.1

/-- The token of a binding: the key alone if it begins with an equals sign, and else the key and the
value with an equals sign between them. -/
def token (b : Binding) : Text := if b.1.head? = some '=' then b.1 else b.1 ++ '=' :: b.2

variable {b : Binding} {t : Text}

theorem IsWritable.writes_token (h : b.IsWritable) : Writes b.token b := by
  obtain ⟨key, value⟩ := b
  rcases h.equals with hkey | ⟨hhead, hvalue⟩
  · have hhead : key.head? ≠ some '=' := fun hhead => hkey (List.mem_of_mem_head? hhead)
    have htoken : token (key, value) = key ++ '=' :: value := if_neg hhead
    rw [htoken]
    exact .pair h.key_ne_nil hkey
  · obtain ⟨rest, rfl⟩ := List.head?_eq_some_iff.1 hhead
    obtain rfl : value = '=' :: rest := hvalue
    exact .marked rest

theorem isSeparator_of_mem_token (h : b.IsWritable) {c : Char} (hc : c ∈ b.token) :
    Modifiers.isSeparator c = false := by
  by_contra hseparator
  have hmem := Modifiers.isSeparator_iff_mem.1 (Bool.not_eq_false _ ▸ hseparator)
  obtain ⟨hkey, hvalue⟩ := h.separator_not_mem c hmem
  unfold token at hc
  split at hc
  · exact hkey hc
  · rcases List.mem_append.1 hc with hc | hc
    · exact hkey hc
    · rcases List.mem_cons.1 hc with rfl | hc
      · cases Modifiers.isSeparator_iff_mem.2 hmem
      · exact hvalue hc

theorem token_ne_nil (h : b.IsWritable) : b.token ≠ [] := by
  unfold token
  split
  · exact h.key_ne_nil
  · simp

theorem Writes.isWritable (h : Writes t b) (hne : t ≠ [])
    (hfree : ∀ c ∈ t, Modifiers.isSeparator c = false) : b.IsWritable := by
  have hapart : ∀ c ∈ [' ', '\t', '\n'], c ∉ t := by
    intro c hc hmem
    cases (hfree c hmem).symm.trans (Modifiers.isSeparator_iff_mem.2 hc)
  obtain ⟨hkey, hvalue⟩ := h.subset
  refine ⟨?_, fun c hc => ⟨fun h => hapart c hc (hkey h), fun h => hapart c hc (hvalue h)⟩, ?_⟩
  · cases h with
    | pair hnonempty _ => exact hnonempty
    | bare _ => exact hne
    | marked _ => exact hne
  · cases h with
    | pair _ hequals => exact .inl hequals
    | bare hequals => exact .inl hequals
    | marked _ => exact .inr ⟨rfl, rfl⟩

theorem not_sharesKey_token {other : Binding} (hb : b.IsWritable) (hother : other.IsWritable)
    (hne : b.1 ≠ other.1) : ¬SharesKey b.token other.token := by
  rw [sharesKey_iff, ofToken_eq_iff.2 hb.writes_token, ofToken_eq_iff.2 hother.writes_token]
  exact hne

end Binding

namespace Modifiers

open Binding

variable {m : Modifiers} {bindings : List Binding}

theorem isWritable_of_ofText {t : Text} {b : Binding} (h : b ∈ (ofText t).bindings) :
    b.IsWritable := by
  obtain ⟨before, token, after, hfields, hwrites, _⟩ :=
    (collects_ofTokens _ _ _).1 (mem_bindings_iff.1 h)
  have hmem : token ∈ t.fields isSeparator := by simp [hfields]
  obtain ⟨hne, hfree⟩ := Text.of_mem_spaced (Text.spaced_fields t) token hmem
  exact hwrites.isWritable hne hfree

theorem pairwise_not_sharesKey (h : ∀ b ∈ m.bindings, b.IsWritable)
    (hperm : bindings.Perm m.bindings) :
    (bindings.map token).Pairwise fun s t => ¬SharesKey s t := by
  have hkeys : m.bindings.Pairwise fun a b => a.1 ≠ b.1 := by
    refine m.ascending.imp fun {a b} hlt heq => ?_
    have hlt : a.1 < b.1 := hlt
    exact List.lt_irrefl _ (heq ▸ hlt)
  apply List.pairwise_map.2
  refine List.Pairwise.imp_of_mem ?_ ((hperm.pairwise_iff fun hne => Ne.symm hne).2 hkeys)
  intro a b ha hb hne
  exact not_sharesKey_token (h a (hperm.mem_iff.1 ha)) (h b (hperm.mem_iff.1 hb)) hne

theorem collects_tokens (h : ∀ b ∈ m.bindings, b.IsWritable) (hperm : bindings.Perm m.bindings) :
    m.Collects (bindings.map token) := by
  intro key value
  rw [← mem_bindings_iff, binds_iff_of_pairwise (pairwise_not_sharesKey h hperm)]
  constructor
  · intro hmem
    exact ⟨_, List.mem_map_of_mem (hperm.mem_iff.2 hmem), (h _ hmem).writes_token⟩
  · rintro ⟨_, htoken, hwrites⟩
    obtain ⟨b, hb, rfl⟩ := List.mem_map.1 htoken
    have hmem := hperm.mem_iff.1 hb
    rwa [← ofToken_eq_iff.2 hwrites, ofToken_eq_iff.2 (h b hmem).writes_token]

theorem ofText_tokens (h : ∀ b ∈ m.bindings, b.IsWritable) (hperm : bindings.Perm m.bindings) :
    ofText ([' '].intercalate (bindings.map token)) = m := by
  have htokens : ∀ t ∈ bindings.map token, t ≠ [] ∧ ∀ c ∈ t, isSeparator c = false := by
    intro t ht
    obtain ⟨b, hb, rfl⟩ := List.mem_map.1 ht
    have hwritable := h b (hperm.mem_iff.1 hb)
    exact ⟨token_ne_nil hwritable, fun c hc => isSeparator_of_mem_token hwritable hc⟩
  unfold ofText
  rw [Text.fields_intercalate rfl htokens]
  exact (collects_iff.1 (collects_tokens h hperm)).symm

/-- Modifiers come from a text exactly when each of their bindings can be written, and then they
come from their tokens, put in any order with spaces between them. -/
theorem exists_ofText_eq_iff_and_ofText_tokens (m : Modifiers) :
    ((∃ t, ofText t = m) ↔ ∀ b ∈ m.bindings, b.IsWritable) ∧
      ((∀ b ∈ m.bindings, b.IsWritable) → ∀ bindings : List Binding, bindings.Perm m.bindings →
        ofText ([' '].intercalate (bindings.map token)) = m) := by
  refine ⟨⟨?_, fun h => ⟨_, ofText_tokens h (.refl _)⟩⟩, fun h _ hperm => ofText_tokens h hperm⟩
  rintro ⟨t, rfl⟩ b hb
  exact isWritable_of_ofText hb

theorem ofText_tokens_of_reversed :
    ofText "c=1=2 b= =a".toList = ofText "=a b= c=1=2".toList := by
  let m := ofText "=a b= c=1=2".toList
  have hwritable : ∀ b ∈ m.bindings, b.IsWritable :=
    (exists_ofText_eq_iff_and_ofText_tokens m).1.1 ⟨_, rfl⟩
  have htext : [' '].intercalate (m.bindings.reverse.map token) = "c=1=2 b= =a".toList := by decide
  rw [← htext]
  exact (exists_ofText_eq_iff_and_ofText_tokens m).2 hwritable _ (List.reverse_perm _)

end Modifiers

end SpatialQuery
