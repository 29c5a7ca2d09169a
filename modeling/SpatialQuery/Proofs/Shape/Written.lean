import SpatialQuery.Proofs.Shape.Lexed
import SpatialQuery.Shape.Reader

/-!
# The shapes that texts write

`Item.Written` and `Form.Written` are the grammar of tokens, and `Form.Makes` says which shape a
form makes. The grammar knows nothing of the order in which faults are looked for; `read_eq_ok_iff`
says that it describes all texts that are accepted, and the shapes that they are read as.
-/

namespace SpatialQuery

namespace Item

/-- The number of an item. -/
def value : Item → Binary64
  | coordinate x => x
  | radius r => r

/-- Tokens write items, with commas anywhere between them. -/
inductive Written : List Token → List Item → Prop
  | nil : Written [] []
  | coordinate {x tokens items} (tail : Written tokens items) :
      Written (.number x :: tokens) (coordinate x :: items)
  | comma {tokens items} (tail : Written tokens items) : Written (.comma :: tokens) items
  | radius {w r tokens items} (hw : Text.agreesUpToCase w ['d'] = true)
      (tail : Written tokens items) :
      Written (.word w :: .equals :: .number r :: tokens) (radius r :: items)

/-- The tokens where the items end, and those after the end. -/
inductive End : Bool → List Token → List Token → Prop
  | last : End false [] []
  | close {after} : End true (.closeParen :: after) after

theorem readAll_of_written {awaitsClose : Bool} {body rest after : List Token} {items : List Item}
    (hbody : Written body items) (hrest : End awaitsClose rest after) :
    readAll awaitsClose (body ++ rest) = .ok (items, after) := by
  induction hbody with
  | nil =>
      cases hrest with
      | last => rfl
      | close => rfl
  | coordinate _ ih =>
      rw [List.cons_append, readAll, ih]
      rfl
  | comma _ ih =>
      rw [List.cons_append, readAll, ih]
  | radius hw _ ih =>
      rw [List.cons_append, List.cons_append, List.cons_append, readAll, if_pos hw, ih]
      rfl

theorem written_of_readAll (awaitsClose : Bool) (tokens : List Token) :
    ∀ {items after}, readAll awaitsClose tokens = .ok (items, after) →
      ∃ body rest, tokens = body ++ rest ∧ Written body items ∧ End awaitsClose rest after := by
  fun_induction readAll awaitsClose tokens with
  | case2 hawaits =>
      intro items after h
      cases h
      obtain rfl := Bool.eq_false_iff.2 hawaits
      exact ⟨[], [], rfl, .nil, .last⟩
  | case3 x rest ih =>
      intro items after h
      obtain ⟨⟨others, after⟩, hothers, hread⟩ := map_eq_ok_iff.1 h
      cases hread
      obtain ⟨body, rest, rfl, hbody, hrest⟩ := ih hothers
      exact ⟨.number x :: body, rest, rfl, .coordinate hbody, hrest⟩
  | case4 rest ih =>
      intro items after h
      obtain ⟨body, rest, rfl, hbody, hrest⟩ := ih h
      exact ⟨.comma :: body, rest, rfl, .comma hbody, hrest⟩
  | case5 rest hawaits =>
      intro items after h
      cases h
      subst hawaits
      exact ⟨[], .closeParen :: rest, rfl, .nil, .close⟩
  | case7 w r rest hw ih =>
      intro items after h
      obtain ⟨⟨others, after⟩, hothers, hread⟩ := map_eq_ok_iff.1 h
      cases hread
      obtain ⟨body, rest, rfl, hbody, hrest⟩ := ih hothers
      exact ⟨.word w :: .equals :: .number r :: body, rest, rfl, .radius hw hbody, hrest⟩
  -- The tokens of the other cases are refused.
  | _ =>
      intro items after h
      cases h

theorem readAll_eq_ok_iff {awaitsClose : Bool} {tokens after : List Token} {items : List Item} :
    readAll awaitsClose tokens = .ok (items, after) ↔
      ∃ body rest, tokens = body ++ rest ∧ Written body items ∧ End awaitsClose rest after := by
  constructor
  · exact written_of_readAll awaitsClose tokens
  · rintro ⟨body, rest, rfl, hbody, hrest⟩
    exact readAll_of_written hbody hrest

/-- Every item that tokens write has its number among them. -/
theorem number_mem_of_written {tokens : List Token} {items : List Item}
    (h : Written tokens items) : ∀ item ∈ items, .number item.value ∈ tokens := by
  induction h with
  | nil =>
      intro item hitem
      cases hitem
  | coordinate _ ih =>
      intro item hitem
      rcases List.mem_cons.1 hitem with rfl | hitem
      · exact List.mem_cons_self
      · exact List.mem_cons_of_mem _ (ih item hitem)
  | comma _ ih =>
      intro item hitem
      exact List.mem_cons_of_mem _ (ih item hitem)
  | radius _ _ ih =>
      intro item hitem
      rcases List.mem_cons.1 hitem with rfl | hitem
      · simp [value]
      · simp [ih item hitem]

end Item

namespace Form

/-- Tokens write a form: a word and items between parentheses, or items without a word. -/
inductive Written : List Token → Form → Prop
  | bare {tokens items} (hne : tokens ≠ []) (hword : ∀ w, tokens.head? ≠ some (.word w))
      (hitems : Item.Written tokens items) : Written tokens ⟨none, items⟩
  | keyword {w tokens items} (hitems : Item.Written tokens items) :
      Written (.word w :: .openParen :: (tokens ++ [.closeParen])) ⟨some w, items⟩

theorem ofTokens_of_bare {tokens : List Token} (hne : tokens ≠ [])
    (hword : ∀ w, tokens.head? ≠ some (.word w)) :
    ofTokens tokens = (Item.readAll false tokens).map fun read => ⟨none, read.1⟩ := by
  unfold ofTokens
  split
  · exact absurd rfl hne
  · exact absurd rfl (hword _)
  · exact absurd rfl (hword _)
  · cases Item.readAll false tokens <;> rfl

theorem ofTokens_of_written {tokens : List Token} {form : Form} (h : Written tokens form) :
    ofTokens tokens = .ok form := by
  cases h with
  | @bare _ items hne hword hitems =>
      have hread := Item.readAll_of_written hitems .last
      rw [List.append_nil] at hread
      rw [ofTokens_of_bare hne hword, hread]
      rfl
  | @keyword w tokens items hitems =>
      exact bind_eq_ok_iff.2 ⟨(items, []), Item.readAll_of_written hitems .close, rfl⟩

theorem written_of_ofTokens {tokens : List Token} {form : Form}
    (h : ofTokens tokens = .ok form) : Written tokens form := by
  unfold ofTokens at h
  split at h
  · cases h
  · obtain ⟨⟨items, after⟩, hread, hform⟩ := bind_eq_ok_iff.1 h
    obtain ⟨body, rest, rfl, hbody, hrest⟩ := Item.readAll_eq_ok_iff.1 hread
    cases hrest
    cases after with
    | nil =>
        obtain rfl := Except.ok.inj hform
        exact .keyword hbody
    | cons extra after => cases hform
  · cases h
  · next hne _ hword =>
      obtain ⟨⟨items, after⟩, hread, hform⟩ := bind_eq_ok_iff.1 h
      obtain ⟨body, rest, rfl, hbody, hrest⟩ := Item.readAll_eq_ok_iff.1 hread
      cases hrest
      obtain rfl := Except.ok.inj hform
      rw [List.append_nil] at hne hword ⊢
      refine .bare hne (fun w hw => ?_) hbody
      obtain ⟨others, rfl⟩ := List.head?_eq_some_iff.1 hw
      exact hword w others rfl

theorem ofTokens_eq_ok_iff {tokens : List Token} {form : Form} :
    ofTokens tokens = .ok form ↔ Written tokens form :=
  ⟨written_of_ofTokens, ofTokens_of_written⟩

theorem number_mem_of_written {tokens : List Token} {form : Form} (h : Written tokens form) :
    ∀ item ∈ form.items, .number item.value ∈ tokens := by
  intro item hitem
  cases h with
  | bare _ _ hitems => exact Item.number_mem_of_written hitems item hitem
  | keyword hitems => simp [Item.number_mem_of_written hitems item hitem]

end Form

namespace Shape

/-- The keywords that a shape can stand behind. -/
def keywords : Shape → List Keyword
  | point _ => [.point]
  | rectangle _ => [.envelope, .rect]
  | circle _ => [.circle]

/-- A shape can be written with a word in front of it, or without one. -/
def HasWord (s : Shape) : Option Text → Prop
  | none => ∀ c, s ≠ circle c
  | some w => ∃ keyword ∈ s.keywords, Keyword.ofWord? w = some keyword

/-- Plain numbers and a radius make a shape. -/
inductive HasNumbers : Shape → List Binary64 → Option Binary64 → Prop
  | point {x y} : HasNumbers (point ⟨x, y⟩) [x, y] none
  | rectangle {minX minY maxX maxY}
      (h : (Rectangle.mk minX minY maxX maxY).isReversed = false) :
      HasNumbers (rectangle ⟨minX, minY, maxX, maxY⟩) [minX, minY, maxX, maxY] none
  | circle {x y r} (h : r.lt .zero = false) : HasNumbers (circle ⟨⟨x, y⟩, r⟩) [x, y] (some r)
  | thirdNumber {x y r} (h : r.lt .zero = false) :
      HasNumbers (.circle ⟨⟨x, y⟩, r⟩) [x, y, r] none

theorem ofCorners_eq_ok_iff {r : Rectangle} {s : Shape} :
    ofCorners r = .ok s ↔ r.isReversed = false ∧ s = rectangle r := by
  unfold ofCorners
  cases r.isReversed <;> simp [eq_comm]

theorem ofCircle_eq_ok_iff {c : Circle} {s : Shape} :
    ofCircle c = .ok s ↔ c.radius.lt .zero = false ∧ s = circle c := by
  unfold ofCircle
  cases c.radius.lt .zero <;> simp [eq_comm]

theorem ofBare_eq_ok_iff {coordinates : List Binary64} {radius : Option Binary64} {s : Shape} :
    ofBare coordinates radius = .ok s ↔ s.HasWord none ∧ s.HasNumbers coordinates radius := by
  constructor
  · intro h
    unfold ofBare at h
    split at h
    · obtain rfl := Except.ok.inj h
      exact ⟨fun _ => by simp, .point⟩
    · obtain ⟨hordered, rfl⟩ := ofCorners_eq_ok_iff.1 h
      exact ⟨fun _ => by simp, .rectangle hordered⟩
    · cases h
  · rintro ⟨hbare, hnumbers⟩
    cases hnumbers with
    | point => rfl
    | rectangle h => exact ofCorners_eq_ok_iff.2 ⟨h, rfl⟩
    | circle _ => exact absurd rfl (hbare _)
    | thirdNumber _ => exact absurd rfl (hbare _)

theorem ofKeyword_eq_ok_iff {keyword : Keyword} {coordinates : List Binary64}
    {radius : Option Binary64} {s : Shape} :
    ofKeyword keyword coordinates radius = .ok s ↔
      keyword ∈ s.keywords ∧ s.HasNumbers coordinates radius := by
  constructor
  · intro h
    unfold ofKeyword at h
    split at h
    · obtain rfl := Except.ok.inj h
      exact ⟨by simp [keywords], .point⟩
    · obtain ⟨hordered, rfl⟩ := ofCorners_eq_ok_iff.1 h
      exact ⟨by simp [keywords], .rectangle hordered⟩
    · obtain ⟨hordered, rfl⟩ := ofCorners_eq_ok_iff.1 h
      exact ⟨by simp [keywords], .rectangle hordered⟩
    · obtain ⟨hradius, rfl⟩ := ofCircle_eq_ok_iff.1 h
      exact ⟨by simp [keywords], .circle hradius⟩
    · obtain ⟨hradius, rfl⟩ := ofCircle_eq_ok_iff.1 h
      exact ⟨by simp [keywords], .thirdNumber hradius⟩
    · cases h
  · rintro ⟨hkeyword, hnumbers⟩
    cases hnumbers with
    | point =>
        obtain rfl := List.mem_singleton.1 hkeyword
        rfl
    | rectangle h =>
        have hcorners := ofCorners_eq_ok_iff.2 ⟨h, rfl⟩
        have hpair : keyword = .envelope ∨ keyword = .rect := by simpa [keywords] using hkeyword
        rcases hpair with rfl | rfl
        · exact hcorners
        · exact hcorners
    | circle h =>
        obtain rfl := List.mem_singleton.1 hkeyword
        exact ofCircle_eq_ok_iff.2 ⟨h, rfl⟩
    | thirdNumber h =>
        obtain rfl := List.mem_singleton.1 hkeyword
        exact ofCircle_eq_ok_iff.2 ⟨h, rfl⟩

theorem ofForm_eq_ok_iff {form : Form} {s : Shape} :
    ofForm form = .ok s ↔ s.HasWord form.word ∧ s.HasNumbers form.coordinates form.radius? := by
  obtain ⟨word, items⟩ := form
  cases word with
  | none => exact ofBare_eq_ok_iff
  | some word =>
      unfold ofForm
      cases hword : Keyword.ofWord? word with
      | none =>
          simp only [hword]
          constructor
          · intro h
            cases h
          · rintro ⟨⟨keyword, _, hkeyword⟩, _⟩
            rw [hword] at hkeyword
            cases hkeyword
      | some keyword =>
          simp only [hword, ofKeyword_eq_ok_iff]
          constructor
          · rintro ⟨hkeyword, hnumbers⟩
            exact ⟨⟨keyword, hkeyword, hword⟩, hnumbers⟩
          · rintro ⟨⟨other, hkeyword, hother⟩, hnumbers⟩
            obtain rfl := Option.some.inj (hword.symm.trans hother)
            exact ⟨hkeyword, hnumbers⟩

/-- A text is read as a shape when it falls into tokens, the tokens write a form, and the word and
the numbers of the form are those of the shape. -/
theorem read_eq_ok_iff {t : Text} {s : Shape} :
    read t = .ok s ↔
      ∃ tokens form, Token.Lexed t tokens ∧ Form.Written tokens form ∧
        s.HasWord form.word ∧ s.HasNumbers form.coordinates form.radius? := by
  constructor
  · intro h
    obtain ⟨tokens, htokens, h⟩ := bind_eq_ok_iff.1 h
    obtain ⟨form, hform, h⟩ := bind_eq_ok_iff.1 h
    exact ⟨tokens, form, Token.ofText_eq_ok_iff.1 htokens, Form.ofTokens_eq_ok_iff.1 hform,
      ofForm_eq_ok_iff.1 h⟩
  · rintro ⟨tokens, form, htokens, hform, hshape⟩
    exact bind_eq_ok_iff.2 ⟨tokens, Token.ofText_eq_ok_iff.2 htokens,
      bind_eq_ok_iff.2 ⟨form, Form.ofTokens_eq_ok_iff.2 hform, ofForm_eq_ok_iff.2 hshape⟩⟩

end Shape

end SpatialQuery
