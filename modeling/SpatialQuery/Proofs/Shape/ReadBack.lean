import SpatialQuery.Proofs.Shape.Printed

/-!
# Printed shapes that are not read back

Any numbers can be put into a shape and printed. Between the parentheses an infinity or a number
that is not a number is a foreign word, or no token at all; so a text that is read was printed from
finite numbers, and then it has the tokens of the shape it was printed from.
-/

namespace SpatialQuery

namespace Token

/-- Some token is a word that cannot stand among items. -/
def HoldsForeign (tokens : List Token) : Prop :=
  ∃ w, word w ∈ tokens ∧ Text.agreesUpToCase w ['d'] = false

theorem HoldsForeign.mono {tokens others : List Token} (h : HoldsForeign others)
    (hsub : others ⊆ tokens) : HoldsForeign tokens := by
  obtain ⟨w, hw, hforeign⟩ := h
  exact ⟨w, hsub hw, hforeign⟩

/-- The token of a printed number shows whether the number is finite. -/
theorem isFinite_or_eq_word {x : Binary64} {c : Char} {run : Text} {token : Token}
    (htext : x.text = c :: run) (htoken : ofRun? c (c :: run) = some token) :
    x.isFinite = true ∨ ∃ w, token = word w ∧ Text.agreesUpToCase w ['d'] = false := by
  cases x with
  | finite _ _ => exact .inl rfl
  | nan =>
      obtain ⟨rfl, rfl⟩ := List.cons.inj htext
      obtain rfl := Option.some.inj htoken
      exact .inr ⟨_, rfl, by decide⟩
  | infinite negative =>
      cases negative with
      | false =>
          obtain ⟨rfl, rfl⟩ := List.cons.inj htext
          obtain rfl := Option.some.inj htoken
          exact .inr ⟨_, rfl, by decide⟩
      | true =>
          -- A minus is no letter, so this run is no word, and it is no finite number either.
          have hnone : ofRun? '-' "-inf".toList = none := by decide +kernel
          obtain ⟨rfl, rfl⟩ := List.cons.inj htext
          cases hnone.symm.trans htoken

variable {rest : Text} {tokens : List Token}

theorem exists_of_lexed_number {x : Binary64} (hrest : EndsRun rest)
    (h : Lexed (x.text ++ rest) tokens) :
    ∃ others, Lexed rest others ∧ others ⊆ tokens ∧
      (x.isFinite = true ∨ HoldsForeign tokens) := by
  obtain ⟨c, run, htext⟩ := List.exists_cons_of_ne_nil x.text_ne_nil
  have hrun : ∀ d ∈ c :: run, isRunChar d = true := by
    intro d hd
    rw [← htext] at hd
    exact Binary64.isRunChar_of_mem_text hd
  rw [htext] at h
  obtain ⟨token, others, rfl, htoken, hothers⟩ := h.exists_of_run hrun hrest
  refine ⟨others, hothers, List.subset_cons_self _ _, ?_⟩
  rcases isFinite_or_eq_word htext htoken with hfinite | ⟨w, rfl, hforeign⟩
  · exact .inl hfinite
  · exact .inr ⟨w, List.mem_cons_self, hforeign⟩

end Token

namespace Item

variable {rest : Text} {tokens : List Token}

theorem exists_of_lexed_text {item : Item} (hrest : Token.EndsRun rest)
    (h : Token.Lexed (item.text ++ rest) tokens) :
    ∃ others, Token.Lexed rest others ∧ others ⊆ tokens ∧
      (item.value.isFinite = true ∨ Token.HoldsForeign tokens) := by
  cases item with
  | coordinate x => exact Token.exists_of_lexed_number hrest h
  | radius r =>
      have hrun : ∀ c ∈ ['d'], isRunChar c = true := List.all_eq_true.1 (by decide)
      have hgroup : Token.Lexed (['d'] ++ '=' :: (r.text ++ rest)) tokens := h
      obtain ⟨_, _, rfl, _, hequals⟩ := hgroup.exists_of_run hrun (Token.endsRun_cons rfl)
      obtain ⟨_, rfl, hnumber⟩ := hequals.exists_of_mark rfl
      obtain ⟨others, hothers, hsub, hvalue⟩ := Token.exists_of_lexed_number hrest hnumber
      exact ⟨others, hothers, List.subset_cons_of_subset _ (List.subset_cons_of_subset _ hsub),
        hvalue.imp_right fun hforeign => hforeign.mono (by simp)⟩

/-- Items with a blank between neighbours show in their tokens whether they are all finite. -/
theorem exists_of_lexed_intercalate {items : List Item} (hrest : Token.EndsRun rest)
    (h : Token.Lexed ([' '].intercalate (items.map text) ++ rest) tokens) :
    ∃ others, Token.Lexed rest others ∧ others ⊆ tokens ∧
      ((∀ item ∈ items, item.value.isFinite = true) ∨ Token.HoldsForeign tokens) := by
  induction items generalizing tokens with
  | nil => exact ⟨tokens, h, List.Subset.refl _, .inl fun _ hitem => by cases hitem⟩
  | cons item items ih =>
      cases items with
      | nil =>
          rw [List.map_singleton, List.intercalate_singleton] at h
          obtain ⟨others, hothers, hsub, hvalue⟩ := exists_of_lexed_text hrest h
          exact ⟨others, hothers, hsub, hvalue.imp_left fun hfinite => by simpa using hfinite⟩
      | cons next items =>
          have hfirst : Token.Lexed (item.text ++
              ' ' :: ([' '].intercalate ((next :: items).map text) ++ rest)) tokens := by
            simpa using h
          obtain ⟨between, hbetween, hsub, hvalue⟩ :=
            exists_of_lexed_text (Token.endsRun_cons rfl) hfirst
          obtain ⟨others, hothers, hsub', hvalues⟩ := ih (hbetween.of_blank (by decide))
          refine ⟨others, hothers, List.Subset.trans hsub' hsub, ?_⟩
          rcases hvalue with hvalue | hforeign
          · rcases hvalues with hvalues | hforeign
            · exact .inl (List.forall_mem_cons.2 ⟨hvalue, hvalues⟩)
            · exact .inr (hforeign.mono hsub)
          · exact .inr hforeign

theorem not_holdsForeign_of_written {items : List Item} (h : Written tokens items) :
    ¬Token.HoldsForeign (tokens ++ [.closeParen]) := by
  rintro ⟨w, hw, hforeign⟩
  induction h with
  | nil => simp at hw
  | coordinate _ ih => exact ih (by simpa using hw)
  | comma _ ih => exact ih (by simpa using hw)
  | radius hd _ ih =>
      rcases List.mem_cons.1 hw with heq | hw
      · obtain rfl := Token.word.inj heq
        rw [hd] at hforeign
        cases hforeign
      · exact ih (by simpa using hw)

end Item

namespace Shape

variable {s r : Shape}

/-- Only finite numbers are printed in a way that is read. -/
theorem isFinite_of_read_text (h : read s.text = .ok r) : ∀ x ∈ s.numbers, x.isFinite = true := by
  obtain ⟨tokens, form, htokens, hform, _⟩ := read_eq_ok_iff.1 h
  obtain ⟨c, run, hword, hletter, hrun⟩ := s.keyword.exists_name_eq_cons
  rw [text_eq, hword] at htokens
  obtain ⟨first, inner, rfl, hfirst, hopen⟩ := htokens.exists_of_run hrun (Token.endsRun_cons rfl)
  obtain rfl := Option.some.inj ((if_pos hletter).symm.trans hfirst)
  obtain ⟨inner, rfl, hinner⟩ := hopen.exists_of_mark rfl
  obtain ⟨_, _, _, hvalues⟩ := Item.exists_of_lexed_intercalate (Token.endsRun_cons rfl) hinner
  have hforeign : ¬Token.HoldsForeign inner := by
    cases hform with
    | bare _ hbare _ => exact absurd rfl (hbare _)
    | keyword hitems => exact Item.not_holdsForeign_of_written hitems
  have hfinite := hvalues.resolve_right hforeign
  intro x hx
  obtain ⟨item, hitem, rfl⟩ := List.mem_map.1 hx
  exact hfinite item hitem

/-- The items of a shape make no other shape. -/
theorem eq_of_hasNumbers_items
    (h : r.HasNumbers (s.items.filterMap Item.coordinate?)
      (s.items.filterMap Item.radius?).getLast?) : r = s := by
  cases s with
  | point p =>
      cases h
      rfl
  | rectangle _ =>
      cases h
      rfl
  | circle _ =>
      cases h
      rfl

theorem eq_of_read_text (h : read s.text = .ok r) : r = s := by
  have hlexed := lexed_text (isFinite_of_read_text h)
  obtain ⟨tokens, form, htokens, hform, _, hnumbers⟩ := read_eq_ok_iff.1 h
  obtain rfl := hlexed.unique htokens
  have hsame := (Form.ofTokens_of_written s.written_tokens).symm.trans
    (Form.ofTokens_of_written hform)
  obtain rfl := Except.ok.inj hsame
  exact eq_of_hasNumbers_items hnumbers

theorem read_text_eq_ok_iff : read s.text = .ok r ↔ r = s ∧ s.WellFormed := by
  constructor
  · intro h
    obtain rfl := eq_of_read_text h
    exact ⟨rfl, wellFormed_of_read h⟩
  · rintro ⟨rfl, h⟩
    exact read_text h

/-- The text of a shape is read back exactly when the shape is well-formed, it is refused when the
shape is not, and it is never read as another shape. -/
theorem read_text_eq_ok_iff_wellFormed (s : Shape) :
    (read s.text = .ok s ↔ s.WellFormed) ∧
      ((∃ e, read s.text = .error e) ↔ ¬s.WellFormed) ∧
      ∀ r, read s.text = .ok r → r = s := by
  refine ⟨?_, ⟨?_, fun h => ?_⟩, fun r => eq_of_read_text⟩
  · simp [read_text_eq_ok_iff]
  · rintro ⟨e, he⟩ h
    rw [read_text h] at he
    cases he
  · cases hread : read s.text with
    | error e => exact ⟨e, rfl⟩
    | ok r => exact absurd (read_text_eq_ok_iff.1 hread).2 h

end Shape

end SpatialQuery
