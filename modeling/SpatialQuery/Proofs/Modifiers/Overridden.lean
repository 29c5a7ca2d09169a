import SpatialQuery.Proofs.Modifiers.Written
import SpatialQuery.Proofs.Text.ByteOrder

/-!
# Text behind text

Modifiers can be put over others: what the later ones bind is kept, and of the earlier ones what the
later ones leave alone. Reading modifiers carries the one over to the other: behind a separator, a
text is read on its own and put over what was read before. The modifiers that are read hold for
each key what its last token writes, and their keys ascend by the bytes of their UTF-8 forms.
-/

namespace SpatialQuery.Modifiers

open Binding

/-- The bindings of both, of which the later ones win. -/
def overriddenBy (m later : Modifiers) : Modifiers := later.bindings.foldl insert m

theorem get?_foldl_insert {bindings : List Binding} (h : bindings.Pairwise Ascending)
    (m : Modifiers) (key : Text) :
    (bindings.foldl insert m).get? key = (bindings.lookup key).or (m.get? key) := by
  induction bindings generalizing m with
  | nil => rfl
  | cons b bindings ih =>
      obtain ⟨hfirst, hrest⟩ := List.pairwise_cons.1 h
      rw [List.foldl_cons, ih hrest, get?_insert, List.lookup_cons]
      by_cases hkey : key = b.1
      · -- Keys ascend, so no later binding takes the place of this one.
        have hnone : bindings.lookup key = none := by
          apply List.lookup_eq_none_iff.2
          intro other hother
          have hlt : b.1 < other.1 := hfirst other hother
          apply bne_iff_ne.2
          rintro rfl
          exact List.lt_irrefl _ (hkey ▸ hlt)
        rw [if_pos hkey, hnone, beq_iff_eq.2 hkey]
        rfl
      · rw [if_neg hkey, beq_eq_false_iff_ne.2 hkey]

theorem get?_overriddenBy (m later : Modifiers) (key : Text) :
    (m.overriddenBy later).get? key = (later.get? key).or (m.get? key) :=
  get?_foldl_insert later.ascending m key

theorem ofText_cons {c : Char} (hc : isSeparator c = true) (t : Text) :
    ofText (c :: t) = ofText t := by
  unfold ofText
  rw [Text.fields_cons_of_separates hc]

theorem ofText_append_cons (s : Text) {c : Char} (hc : isSeparator c = true) (t : Text) :
    ofText (s ++ c :: t) = (ofText s).overriddenBy (ofText t) := by
  apply eq_of_get?_eq
  intro key
  rw [get?_overriddenBy, get?_ofText_append s (Text.startsApart_cons hc t), ofText_cons hc]

theorem pairwise_bytes (m : Modifiers) :
    m.bindings.Pairwise fun a b => a.1.bytes < b.1.bytes :=
  m.ascending.imp Text.bytes_lt_bytes_iff.2

/-- The modifiers of two texts with a space, a tab or a line feed between them are those of the
later text put over those of the earlier one. The modifiers of any text hold for each key what the
last of its tokens writes, and stand in the ascending order of the bytes of their keys. -/
theorem ofText_append_and_collects_and_pairwise :
    (∀ s t : Text, ∀ c ∈ [' ', '\t', '\n'],
      ofText (s ++ c :: t) = (ofText s).overriddenBy (ofText t) ∧
        ∀ key, (ofText (s ++ c :: t)).get? key =
          ((ofText t).get? key).or ((ofText s).get? key)) ∧
      ∀ t : Text,
        (∃ tokens, Text.Spaced isSeparator t tokens ∧ (ofText t).Collects tokens) ∧
          (ofText t).bindings.Pairwise fun a b => a.1.bytes < b.1.bytes := by
  constructor
  · intro s t c hc
    have hsame := ofText_append_cons s (isSeparator_iff_mem.2 hc) t
    refine ⟨hsame, fun key => ?_⟩
    rw [hsame, get?_overriddenBy]
  · intro t
    exact ⟨⟨_, Text.spaced_fields t, collects_ofTokens _⟩, pairwise_bytes _⟩

theorem ofText_append_of_tab :
    '\t' ∈ [' ', '\t', '\n'] ∧
      ofText "é=1 =a \té=2=3".toList =
        (ofText "é=1 =a ".toList).overriddenBy (ofText "é=2=3".toList) ∧
      (ofText "é=1 =a \té=2=3".toList).get? "é".toList = some "2=3".toList := by
  have htab : '\t' ∈ [' ', '\t', '\n'] := by decide
  obtain ⟨hsame, hget⟩ :=
    ofText_append_and_collects_and_pairwise.1 "é=1 =a ".toList "é=2=3".toList '\t' htab
  exact ⟨htab, hsame, hget "é".toList⟩

end SpatialQuery.Modifiers
