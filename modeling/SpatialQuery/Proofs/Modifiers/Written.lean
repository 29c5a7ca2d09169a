import Mathlib
import SpatialQuery.Modifiers
import SpatialQuery.Proofs.Text.Spacing

/-!
# Bindings as tokens write them

What a token writes and which token binds a key are told by relations on the texts alone.
`collects_iff` says that the bindings of a list of tokens are exactly what the last token of each
key writes, and `get?_ofText_append` that later text overrides earlier text key by key.
-/

namespace SpatialQuery

namespace Binding

/-- A token with an equals sign past its start writes what stands on the two sides of the first
one, and every other token writes itself as the value of itself. -/
inductive Writes : Text → Binding → Prop
  | pair {key value} (hne : key ≠ []) (hkey : '=' ∉ key) : Writes (key ++ '=' :: value) (key, value)
  | bare {token} (h : '=' ∉ token) : Writes token (token, token)
  | marked (rest) : Writes ('=' :: rest) ('=' :: rest, '=' :: rest)

theorem writes_ofToken (token : Text) : Writes token (ofToken token) := by
  unfold ofToken
  split
  · next key value hcut =>
      obtain ⟨rfl, hkey⟩ := Text.cutFirst_eq_some_iff.1 hcut
      split
      · next hempty =>
          have hnil : key = [] := List.isEmpty_iff.1 hempty
          subst hnil
          exact .marked value
      · next hempty => exact .pair (by simpa using hempty) hkey
  · next hcut => exact .bare (Text.cutFirst_eq_none_iff.1 hcut)

theorem ofToken_eq_iff {token : Text} {b : Binding} : ofToken token = b ↔ Writes token b := by
  constructor
  · rintro rfl
    exact writes_ofToken token
  · intro h
    unfold ofToken
    cases h with
    | @pair key value hne hkey =>
        rw [Text.cutFirst_eq_some_iff.2 ⟨rfl, hkey⟩]
        exact if_neg (by simpa using hne)
    | bare h => rw [Text.cutFirst_eq_none_iff.2 h]
    | marked rest => rfl

/-- Both sides of a binding are parts of the token that writes it. -/
theorem Writes.subset {token key value : Text} (h : Writes token (key, value)) :
    key ⊆ token ∧ value ⊆ token := by
  cases h with
  | pair _ _ => simp
  | bare _ => simp
  | marked _ => simp

end Binding

namespace Modifiers

theorem isSeparator_iff_mem {c : Char} : isSeparator c = true ↔ c ∈ [' ', '\t', '\n'] := by
  simp [isSeparator, or_assoc]

/-- A key is bound by the last of the tokens that write it. -/
def Binds (tokens : List Text) (key value : Text) : Prop :=
  ∃ before token after, tokens = before ++ token :: after ∧ Binding.Writes token (key, value) ∧
    ∀ later ∈ after, ∀ other, ¬Binding.Writes later (key, other)

/-- Modifiers that hold the bindings of a list of tokens and no others. -/
def Collects (m : Modifiers) (tokens : List Text) : Prop :=
  ∀ key value, m.get? key = some value ↔ Binds tokens key value

theorem not_binds_nil (key value : Text) : ¬Binds [] key value := by
  rintro ⟨before, token, after, h, _⟩
  simp at h

/-- One more token at the end binds its key and leaves the others alone. -/
theorem binds_concat_iff {tokens : List Text} {token key value : Text} :
    Binds (tokens ++ [token]) key value ↔
      Binding.Writes token (key, value) ∨
        (∀ other, ¬Binding.Writes token (key, other)) ∧ Binds tokens key value := by
  constructor
  · rintro ⟨before, writer, after, htokens, hwrites, hlater⟩
    rcases List.eq_nil_or_concat after with rfl | ⟨after, last, rfl⟩
    · obtain ⟨_, hlast⟩ := List.append_inj' htokens rfl
      left
      rwa [List.singleton_inj.1 hlast]
    · rw [List.concat_eq_append, ← List.cons_append, ← List.append_assoc] at htokens
      obtain ⟨hinit, hlast⟩ := List.append_inj' htokens rfl
      obtain rfl := List.singleton_inj.1 hlast
      right
      constructor
      · exact hlater token (by simp)
      · exact ⟨before, writer, after, hinit, hwrites, fun later h => hlater later (by simp [h])⟩
  · rintro (hwrites | ⟨hnone, before, writer, after, rfl, hwrites, hlater⟩)
    · exact ⟨tokens, token, [], rfl, hwrites, by simp⟩
    · refine ⟨before, writer, after ++ [token], by simp, hwrites, ?_⟩
      intro later h
      rcases List.mem_append.1 h with h | h
      · exact hlater later h
      · obtain rfl := List.mem_singleton.1 h
        exact hnone

theorem get?_ofTokens_concat (tokens : List Text) (token key : Text) :
    (ofTokens (tokens ++ [token])).get? key =
      if key = (Binding.ofToken token).1 then some (Binding.ofToken token).2
      else (ofTokens tokens).get? key := by
  unfold ofTokens
  rw [List.foldl_append]
  exact get?_insert _ _ _

theorem collects_ofTokens (tokens : List Text) : (ofTokens tokens).Collects tokens := by
  induction tokens using List.reverseRecOn with
  | nil =>
      intro key value
      constructor
      · intro h
        cases h
      · intro h
        exact absurd h (not_binds_nil key value)
  | append_singleton tokens token ih =>
      intro key value
      rw [get?_ofTokens_concat, binds_concat_iff, ← ih key value]
      by_cases hkey : key = (Binding.ofToken token).1
      · have hwrites : Binding.Writes token (key, (Binding.ofToken token).2) :=
          hkey ▸ Binding.writes_ofToken token
        rw [if_pos hkey]
        constructor
        · intro h
          left
          rwa [Option.some.inj h] at hwrites
        · rintro (h | ⟨hnone, _⟩)
          · rw [Binding.ofToken_eq_iff.2 h]
          · exact absurd hwrites (hnone _)
      · have hnone : ∀ other, ¬Binding.Writes token (key, other) := by
          intro other h
          rw [Binding.ofToken_eq_iff.2 h] at hkey
          exact hkey rfl
        rw [if_neg hkey]
        constructor
        · intro h
          exact .inr ⟨hnone, h⟩
        · rintro (h | ⟨_, h⟩)
          · exact absurd h (hnone value)
          · exact h

/-- Nothing is bound that does not stand in the text. -/
theorem subset_of_get?_ofText {t key value : Text} (h : (ofText t).get? key = some value) :
    key ⊆ t ∧ value ⊆ t := by
  obtain ⟨before, token, after, hfields, hwrites, _⟩ := (collects_ofTokens _ key value).1 h
  have hmem : token ∈ t.fields isSeparator := by simp [hfields]
  have htoken := Text.subset_of_spaced (Text.spaced_fields t) token hmem
  obtain ⟨hkey, hvalue⟩ := hwrites.subset
  exact ⟨List.Subset.trans hkey htoken, List.Subset.trans hvalue htoken⟩

/-- Keys ascend, so a key has no second binding behind the first one. -/
theorem mem_bindings_iff {m : Modifiers} {key value : Text} :
    (key, value) ∈ m.bindings ↔ m.get? key = some value := by
  constructor
  · intro h
    obtain ⟨before, after, hsplit⟩ := List.append_of_mem h
    refine List.lookup_eq_some_iff.2 ⟨before, after, hsplit, fun b hb => ?_⟩
    have hascending := m.ascending
    rw [hsplit] at hascending
    have hlt : b.1 < key := (List.pairwise_append.1 hascending).2.2 b hb _ List.mem_cons_self
    apply bne_iff_ne.2
    rintro rfl
    exact List.lt_irrefl _ hlt
  · intro h
    obtain ⟨before, after, hsplit, _⟩ := List.lookup_eq_some_iff.1 h
    rw [hsplit]
    exact List.mem_append_right _ List.mem_cons_self

theorem mem_keys_iff {m : Modifiers} {key : Text} :
    key ∈ m.keys ↔ ∃ value, m.get? key = some value := by
  unfold keys
  constructor
  · intro h
    obtain ⟨⟨_, value⟩, hmem, rfl⟩ := List.mem_map.1 h
    exact ⟨value, mem_bindings_iff.1 hmem⟩
  · rintro ⟨value, h⟩
    exact List.mem_map.2 ⟨(key, value), mem_bindings_iff.2 h, rfl⟩

theorem mem_keys_erase_iff {m : Modifiers} {key other : Text} :
    other ∈ (m.erase key).keys ↔ other ∈ m.keys ∧ other ≠ key := by
  rw [mem_keys_iff, mem_keys_iff, get?_erase]
  by_cases hother : other = key
  · simp [hother]
  · simp [hother]

theorem keys_eq_nil_iff {m : Modifiers} : m.keys = [] ↔ m.isEmpty = true := by
  simp [keys, isEmpty]

theorem pairwise_keys (m : Modifiers) : m.keys.Pairwise (· < ·) := List.pairwise_map.2 m.ascending

/-- Modifiers are told apart by the values of their keys. -/
theorem eq_of_get?_eq {m n : Modifiers} (h : ∀ key, m.get? key = n.get? key) : m = n := by
  have hirrefl : Std.Irrefl Binding.Ascending := ⟨fun b => List.lt_irrefl b.1⟩
  have hantisymm : Std.Antisymm Binding.Ascending :=
    ⟨fun _ _ hab hba => absurd hba (List.lt_asymm hab)⟩
  have hmem : ∀ b, b ∈ m.bindings ↔ b ∈ n.bindings := by
    rintro ⟨key, value⟩
    rw [mem_bindings_iff, mem_bindings_iff, h key]
  have hbindings := m.ascending.eq_of_mem_iff n.ascending hmem
  cases m
  cases n
  simpa using hbindings

theorem collects_iff {m : Modifiers} {tokens : List Text} :
    m.Collects tokens ↔ m = ofTokens tokens := by
  constructor
  · intro h
    apply eq_of_get?_eq
    intro key
    apply Option.ext
    intro value
    exact (h key value).trans (collects_ofTokens tokens key value).symm
  · rintro rfl
    exact collects_ofTokens tokens

theorem get?_ofTokens_append (tokens later : List Text) (key : Text) :
    (ofTokens (tokens ++ later)).get? key =
      ((ofTokens later).get? key).or ((ofTokens tokens).get? key) := by
  induction later using List.reverseRecOn with
  | nil => rw [List.append_nil]; rfl
  | append_singleton later token ih =>
      rw [← List.append_assoc, get?_ofTokens_concat, get?_ofTokens_concat, ih]
      split <;> rfl

/-- What a text binds overrides what the text in front of it binds. -/
theorem get?_ofText_append (s : Text) {t : Text} (ht : t.StartsApart isSeparator) (key : Text) :
    (ofText (s ++ t)).get? key = ((ofText t).get? key).or ((ofText s).get? key) := by
  unfold ofText
  rw [Text.fields_append_of_startsApart s ht, get?_ofTokens_append]

end Modifiers

end SpatialQuery
