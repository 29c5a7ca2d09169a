import SpatialQuery.Proofs.Modifiers.Written

/-!
# Which tokens count, and in which order

Of several tokens that write the same key only the last one counts, so a token can be left out
where a later one writes its key. Tokens that write keys of their own all count, and then their
order does not matter.
-/

namespace SpatialQuery

namespace Binding

/-- Two tokens write the same key. -/
def SharesKey (s t : Text) : Prop := ∃ key v w, Writes s (key, v) ∧ Writes t (key, w)

theorem SharesKey.symm {s t : Text} (h : SharesKey s t) : SharesKey t s := by
  obtain ⟨key, v, w, hs, ht⟩ := h
  exact ⟨key, w, v, ht, hs⟩

theorem sharesKey_iff {s t : Text} : SharesKey s t ↔ (ofToken s).1 = (ofToken t).1 := by
  constructor
  · rintro ⟨key, v, w, hs, ht⟩
    rw [ofToken_eq_iff.2 hs, ofToken_eq_iff.2 ht]
  · intro h
    refine ⟨(ofToken s).1, _, (ofToken t).2, writes_ofToken s, ?_⟩
    rw [h]
    exact writes_ofToken t

instance (s t : Text) : Decidable (SharesKey s t) := decidable_of_iff _ sharesKey_iff.symm

end Binding

namespace Modifiers

open Binding

variable {tokens before after : List Text} {token key value : Text}

/-- Among tokens with keys of their own every token binds what it writes. -/
theorem binds_iff_of_pairwise (h : tokens.Pairwise fun s t => ¬SharesKey s t) :
    Binds tokens key value ↔ ∃ token ∈ tokens, Writes token (key, value) := by
  constructor
  · rintro ⟨before, token, after, rfl, hwrites, _⟩
    exact ⟨token, by simp, hwrites⟩
  · rintro ⟨token, hmem, hwrites⟩
    obtain ⟨before, after, rfl⟩ := List.append_of_mem hmem
    have hapart := (List.pairwise_cons.1 (List.pairwise_append.1 h).2.1).1
    exact ⟨before, token, after, rfl, hwrites, fun later hlater other hother =>
      hapart later hlater ⟨key, value, other, hwrites, hother⟩⟩

/-- The order of tokens with keys of their own does not matter. -/
theorem ofTokens_eq_of_perm {others : List Text}
    (h : tokens.Pairwise fun s t => ¬SharesKey s t) (hperm : others.Perm tokens) :
    ofTokens others = ofTokens tokens := by
  have hothers : others.Pairwise fun s t => ¬SharesKey s t :=
    (hperm.pairwise_iff fun hst hts => hst hts.symm).2 h
  apply collects_iff.1
  intro key value
  calc
    (ofTokens others).get? key = some value ↔ Binds others key value :=
      collects_ofTokens others key value
    _ ↔ ∃ token ∈ others, Writes token (key, value) := binds_iff_of_pairwise hothers
    _ ↔ ∃ token ∈ tokens, Writes token (key, value) := by simp only [hperm.mem_iff]
    _ ↔ Binds tokens key value := (binds_iff_of_pairwise h).symm

theorem exists_get?_of_mem (hmem : token ∈ tokens) (hwrites : Writes token (key, value)) :
    ∃ last, (ofTokens tokens).get? key = some last := by
  induction tokens using List.reverseRecOn with
  | nil => cases hmem
  | append_singleton tokens newest ih =>
      rw [get?_ofTokens_concat]
      split
      · exact ⟨_, rfl⟩
      · next hkey =>
          rcases List.mem_append.1 hmem with hmem | hmem
          · exact ih hmem
          · obtain rfl := List.mem_singleton.1 hmem
            rw [ofToken_eq_iff.2 hwrites] at hkey
            exact absurd rfl hkey

/-- A token can be left out where a later one writes its key, whatever value it writes. -/
theorem ofTokens_eq_of_sharesKey (h : ∃ later ∈ after, SharesKey token later) :
    ofTokens (before ++ token :: after) = ofTokens (before ++ after) := by
  obtain ⟨later, hlater, key, v, w, htoken, hlast⟩ := h
  obtain ⟨last, hget⟩ := exists_get?_of_mem hlater hlast
  apply eq_of_get?_eq
  intro other
  rw [List.append_cons, get?_ofTokens_append, get?_ofTokens_concat, get?_ofTokens_append,
    ofToken_eq_iff.2 htoken]
  split
  · next hother =>
      rw [hother, hget]
      rfl
  · rfl

end Modifiers

end SpatialQuery
