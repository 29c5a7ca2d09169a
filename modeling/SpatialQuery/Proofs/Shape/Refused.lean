import SpatialQuery.Proofs.Shape.Written

/-!
# Why texts are refused as shapes

A text is refused by the first of three steps that fails: it falls into tokens, the tokens make a
form, and the form makes a shape. Each step has causes of its own. `Form.RefusedFor` lists those of
the second step, and `Shape.RefusedFor` says for the third one exactly which forms are refused for
which cause.
-/

namespace SpatialQuery

/-- A text that does not fall into tokens is refused for one of its lexemes. -/
theorem Token.exists_of_ofLexemes_error {lexemes : List Lexeme} {e : ShapeError}
    (h : ofLexemes lexemes = .error e) :
    ∃ lexeme ∈ lexemes, e = .invalidCoordinate lexeme.text lexeme.offset := by
  induction lexemes with
  | nil => cases h
  | cons lexeme rest ih =>
      rcases bind_eq_error_iff.1 h with h | ⟨token, _, h⟩
      · unfold ofLexeme at h
        split at h
        · cases h
        · exact ⟨lexeme, List.mem_cons_self, (Except.error.inj h).symm⟩
      · rcases bind_eq_error_iff.1 h with h | ⟨tokens, _, h⟩
        · obtain ⟨other, hother, he⟩ := ih h
          exact ⟨other, List.mem_cons_of_mem _ hother, he⟩
        · cases h

/-- Tokens that make no form are refused for one of them, or for something that is missing. -/
inductive Form.RefusedFor (tokens : List Token) : ShapeError → Prop
  | empty : RefusedFor tokens .empty
  | missingOpen {w} (h : .word w ∈ tokens) : RefusedFor tokens (.missingOpen w)
  | missingRadius : RefusedFor tokens .missingRadius
  | unexpected {token} (h : token ∈ tokens) : RefusedFor tokens (.unexpected token)
  | missingClose : RefusedFor tokens .missingClose
  | trailing {token} (h : token ∈ tokens) : RefusedFor tokens (.trailing token)

theorem Form.RefusedFor.mono {tokens others : List Token} {e : ShapeError}
    (h : RefusedFor tokens e) (hsub : tokens ⊆ others) : RefusedFor others e := by
  cases h with
  | empty => exact .empty
  | missingOpen hw => exact .missingOpen (hsub hw)
  | missingRadius => exact .missingRadius
  | unexpected htoken => exact .unexpected (hsub htoken)
  | missingClose => exact .missingClose
  | trailing htoken => exact .trailing (hsub htoken)

theorem Item.refusedFor_of_readAll (awaitsClose : Bool) (tokens : List Token) :
    ∀ {e}, readAll awaitsClose tokens = .error e → Form.RefusedFor tokens e := by
  fun_induction readAll awaitsClose tokens with
  | case1 _ =>
      intro e h
      obtain rfl := Except.error.inj h
      exact .missingClose
  | case2 _ =>
      intro e h
      cases h
  | case3 x rest ih =>
      intro e h
      exact (ih (map_eq_error_iff.1 h)).mono (List.subset_cons_self _ _)
  | case4 rest ih =>
      intro e h
      exact (ih h).mono (List.subset_cons_self _ _)
  | case5 rest _ =>
      intro e h
      cases h
  | case7 w r rest _ ih =>
      intro e h
      exact (ih (map_eq_error_iff.1 h)).mono (fun token htoken => by simp [htoken])
  | case9 w _ _ _ =>
      intro e h
      obtain rfl := Except.error.inj h
      exact .missingRadius
  -- In the other cases the first token is reported.
  | _ =>
      intro e h
      obtain rfl := Except.error.inj h
      exact .unexpected List.mem_cons_self

theorem Form.refusedFor_of_ofTokens {tokens : List Token} {e : ShapeError}
    (h : ofTokens tokens = .error e) : RefusedFor tokens e := by
  unfold ofTokens at h
  split at h
  · obtain rfl := Except.error.inj h
    exact .empty
  · next w rest =>
      rcases bind_eq_error_iff.1 h with h | ⟨⟨items, after⟩, hread, hafter⟩
      · have hrest := Item.refusedFor_of_readAll true rest h
        exact hrest.mono (fun token htoken => by simp [htoken])
      · obtain ⟨body, closing, rfl, _, hend⟩ := Item.readAll_eq_ok_iff.1 hread
        cases hend
        cases after with
        | nil => cases hafter
        | cons extra after =>
            obtain rfl := Except.error.inj hafter
            exact .trailing (by simp)
  · obtain rfl := Except.error.inj h
    exact .missingOpen List.mem_cons_self
  · rcases bind_eq_error_iff.1 h with h | ⟨_, _, h⟩
    · exact Item.refusedFor_of_readAll false tokens h
    · cases h

namespace Shape

/-- How many plain numbers make a shape behind a keyword or without one, beside a radius or without
one. -/
def counts : (keyword : Option Keyword) → (hasRadius : Bool) → List Nat
  | none, false => [2, 4]
  | some .point, false => [2]
  | some .envelope, false => [4]
  | some .rect, false => [4]
  | some .circle, false => [3]
  | some .circle, true => [2]
  | _, true => []

/-- What keeps a form from making a shape. -/
inductive RefusedFor (form : Form) : ShapeError → Prop
  | unknownShape {w} (hw : form.word = some w) (h : Keyword.ofWord? w = none) :
      RefusedFor form (.unknownShape w.upper)
  | wrongCount {w keyword} (hw : form.word = some w) (hk : Keyword.ofWord? w = some keyword)
      (h : form.coordinates.length ∉ counts (some keyword) form.radius?.isSome) :
      RefusedFor form (.wrongCount keyword form.coordinates.length)
  | wrongBareCount (hw : form.word = none)
      (h : form.coordinates.length ∉ counts none form.radius?.isSome) :
      RefusedFor form (.wrongBareCount form.coordinates.length)
  | reversed {r : Rectangle} (hw : (rectangle r).HasWord form.word)
      (hxs : form.coordinates = [r.minX, r.minY, r.maxX, r.maxY]) (hr : form.radius? = none)
      (h : r.isReversed = true) : RefusedFor form .reversed
  | negativeRadius {c : Circle} (hw : (circle c).HasWord form.word)
      (hxs : form.coordinates ++ form.radius?.toList = [c.center.x, c.center.y, c.radius])
      (h : c.radius.lt .zero = true) : RefusedFor form .negativeRadius

theorem ofCorners_eq_error_iff {r : Rectangle} {e : ShapeError} :
    ofCorners r = .error e ↔ r.isReversed = true ∧ e = .reversed := by
  unfold ofCorners
  cases r.isReversed <;> simp [eq_comm]

theorem ofCircle_eq_error_iff {c : Circle} {e : ShapeError} :
    ofCircle c = .error e ↔ c.radius.lt .zero = true ∧ e = .negativeRadius := by
  unfold ofCircle
  cases c.radius.lt .zero <;> simp [eq_comm]

section Counts

variable {xs : List Binary64} {radius : Option Binary64} {keyword : Keyword} {e : ShapeError}

theorem ofBare_of_not_mem_counts (h : xs.length ∉ counts none radius.isSome) :
    ofBare xs radius = .error (.wrongBareCount xs.length) := by
  unfold ofBare
  split
  case h_3 => rfl
  all_goals exact absurd (by simp [counts]) h

theorem ofKeyword_of_not_mem_counts (h : xs.length ∉ counts (some keyword) radius.isSome) :
    ofKeyword keyword xs radius = .error (.wrongCount keyword xs.length) := by
  unfold ofKeyword
  split
  case h_6 => rfl
  all_goals exact absurd (by simp [counts]) h

/-- With as many numbers as make a shape, only the order of corners is left to be wrong. -/
theorem exists_of_ofBare_error (hcount : xs.length ∈ counts none radius.isSome)
    (h : ofBare xs radius = .error e) :
    ∃ r : Rectangle, xs = [r.minX, r.minY, r.maxX, r.maxY] ∧ radius = none ∧
      r.isReversed = true ∧ e = .reversed := by
  cases radius with
  | some r => cases hcount
  | none =>
      rcases List.mem_pair.1 hcount with hlength | hlength
      · obtain ⟨x, y, rfl⟩ := List.length_eq_two.1 hlength
        cases h
      · obtain ⟨a, b, c, d, rfl⟩ := List.length_eq_four.1 hlength
        exact ⟨⟨a, b, c, d⟩, rfl, rfl, ofCorners_eq_error_iff.1 h⟩

theorem exists_of_ofKeyword_error (hcount : xs.length ∈ counts (some keyword) radius.isSome)
    (h : ofKeyword keyword xs radius = .error e) :
    (∃ r : Rectangle, keyword ∈ (rectangle r).keywords ∧
      xs = [r.minX, r.minY, r.maxX, r.maxY] ∧ radius = none ∧ r.isReversed = true ∧
        e = .reversed) ∨
    ∃ c : Circle, keyword ∈ (circle c).keywords ∧
      xs ++ radius.toList = [c.center.x, c.center.y, c.radius] ∧ c.radius.lt .zero = true ∧
        e = .negativeRadius := by
  cases keyword with
  | point =>
      cases radius with
      | some r => cases hcount
      | none =>
          obtain ⟨x, y, rfl⟩ := List.length_eq_two.1 (List.mem_singleton.1 hcount)
          cases h
  | envelope =>
      cases radius with
      | some r => cases hcount
      | none =>
          obtain ⟨a, b, c, d, rfl⟩ := List.length_eq_four.1 (List.mem_singleton.1 hcount)
          exact .inl ⟨⟨a, b, c, d⟩, by simp [keywords], rfl, rfl, ofCorners_eq_error_iff.1 h⟩
  | rect =>
      cases radius with
      | some r => cases hcount
      | none =>
          obtain ⟨a, b, c, d, rfl⟩ := List.length_eq_four.1 (List.mem_singleton.1 hcount)
          exact .inl ⟨⟨a, b, c, d⟩, by simp [keywords], rfl, rfl, ofCorners_eq_error_iff.1 h⟩
  | circle =>
      cases radius with
      | some r =>
          obtain ⟨x, y, rfl⟩ := List.length_eq_two.1 (List.mem_singleton.1 hcount)
          exact .inr ⟨⟨⟨x, y⟩, r⟩, by simp [keywords], rfl, ofCircle_eq_error_iff.1 h⟩
      | none =>
          obtain ⟨x, y, r, rfl⟩ := List.length_eq_three.1 (List.mem_singleton.1 hcount)
          exact .inr ⟨⟨⟨x, y⟩, r⟩, by simp [keywords], rfl, ofCircle_eq_error_iff.1 h⟩

end Counts

theorem refusedFor_of_ofForm {form : Form} {e : ShapeError} (h : ofForm form = .error e) :
    RefusedFor form e := by
  unfold ofForm at h
  split at h
  · next hw =>
      by_cases hcount : form.coordinates.length ∈ counts none form.radius?.isSome
      · obtain ⟨r, hxs, hr, hreversed, rfl⟩ := exists_of_ofBare_error hcount h
        have hbare : (rectangle r).HasWord none := fun c => by simp
        exact .reversed (hw ▸ hbare) hxs hr hreversed
      · obtain rfl := Except.error.inj ((ofBare_of_not_mem_counts hcount).symm.trans h)
        exact .wrongBareCount hw hcount
  · next w hw =>
      split at h
      · next keyword hk =>
          by_cases hcount : form.coordinates.length ∈ counts (some keyword) form.radius?.isSome
          · rcases exists_of_ofKeyword_error hcount h with
              ⟨r, hmem, hxs, hr, hreversed, rfl⟩ | ⟨c, hmem, hxs, hradius, rfl⟩
            · exact .reversed (hw ▸ ⟨keyword, hmem, hk⟩) hxs hr hreversed
            · exact .negativeRadius (hw ▸ ⟨keyword, hmem, hk⟩) hxs hradius
          · obtain rfl := Except.error.inj ((ofKeyword_of_not_mem_counts hcount).symm.trans h)
            exact .wrongCount hw hk hcount
      · next hk =>
          obtain rfl := Except.error.inj h
          exact .unknownShape hw hk

theorem ofForm_of_bare {form : Form} (hw : form.word = none) :
    ofForm form = ofBare form.coordinates form.radius? := by
  unfold ofForm
  rw [hw]

theorem ofForm_of_keyword {form : Form} {w : Text} {keyword : Keyword} (hw : form.word = some w)
    (hk : Keyword.ofWord? w = some keyword) :
    ofForm form = ofKeyword keyword form.coordinates form.radius? := by
  unfold ofForm
  rw [hw]
  simp only [hk]

theorem ofForm_of_refusedFor {form : Form} {e : ShapeError} (h : RefusedFor form e) :
    ofForm form = .error e := by
  cases h with
  | unknownShape hw h =>
      unfold ofForm
      rw [hw]
      simp only [h]
  | wrongCount hw hk h => rw [ofForm_of_keyword hw hk, ofKeyword_of_not_mem_counts h]
  | wrongBareCount hw h => rw [ofForm_of_bare hw, ofBare_of_not_mem_counts h]
  | @reversed r hw hxs hr h =>
      have hcorners := ofCorners_eq_error_iff.2 ⟨h, rfl⟩
      cases hword : form.word with
      | none =>
          rw [ofForm_of_bare hword, hxs, hr]
          exact hcorners
      | some w =>
          rw [hword] at hw
          obtain ⟨keyword, hmem, hk⟩ := hw
          rw [ofForm_of_keyword hword hk, hxs, hr]
          rcases List.mem_pair.1 hmem with rfl | rfl
          · exact hcorners
          · exact hcorners
  | @negativeRadius c hw hxs h =>
      have hcircle := ofCircle_eq_error_iff.2 ⟨h, rfl⟩
      cases hword : form.word with
      | none =>
          rw [hword] at hw
          exact absurd rfl (hw c)
      | some w =>
          rw [hword] at hw
          obtain ⟨keyword, hmem, hk⟩ := hw
          obtain rfl := List.mem_singleton.1 hmem
          rw [ofForm_of_keyword hword hk]
          cases hradius : form.radius? with
          | none =>
              rw [hradius, Option.toList_none, List.append_nil] at hxs
              rw [hxs]
              exact hcircle
          | some r =>
              rw [hradius] at hxs
              change form.coordinates ++ [r] = [_, _] ++ [_] at hxs
              obtain ⟨hcenter, hr⟩ := List.append_inj' hxs rfl
              obtain rfl := List.head_eq_of_cons_eq hr
              rw [hcenter]
              exact hcircle

theorem ofForm_eq_error_iff {form : Form} {e : ShapeError} :
    ofForm form = .error e ↔ RefusedFor form e :=
  ⟨refusedFor_of_ofForm, ofForm_of_refusedFor⟩

/-- The first step that fails is the one that is reported. -/
theorem read_eq_error_iff {t : Text} {e : ShapeError} :
    read t = .error e ↔
      Token.ofText t = .error e ∨
        (∃ tokens, Token.Lexed t tokens ∧ Form.ofTokens tokens = .error e) ∨
          ∃ tokens form, Token.Lexed t tokens ∧ Form.Written tokens form ∧ RefusedFor form e := by
  constructor
  · intro h
    rcases bind_eq_error_iff.1 h with h | ⟨tokens, htokens, h⟩
    · exact .inl h
    · have hlexed := Token.ofText_eq_ok_iff.1 htokens
      rcases bind_eq_error_iff.1 h with h | ⟨form, hform, h⟩
      · exact .inr (.inl ⟨tokens, hlexed, h⟩)
      · exact .inr (.inr ⟨tokens, form, hlexed, Form.ofTokens_eq_ok_iff.1 hform,
          ofForm_eq_error_iff.1 h⟩)
  · rintro (h | ⟨tokens, hlexed, h⟩ | ⟨tokens, form, hlexed, hform, h⟩)
    · exact bind_eq_error_iff.2 (.inl h)
    · exact bind_eq_error_iff.2 (.inr ⟨tokens, Token.ofText_eq_ok_iff.2 hlexed,
        bind_eq_error_iff.2 (.inl h)⟩)
    · exact bind_eq_error_iff.2 (.inr ⟨tokens, Token.ofText_eq_ok_iff.2 hlexed,
        bind_eq_error_iff.2 (.inr ⟨form, Form.ofTokens_eq_ok_iff.2 hform,
          ofForm_eq_error_iff.2 h⟩)⟩)

end Shape

end SpatialQuery
