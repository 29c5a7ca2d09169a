import SpatialQuery.Proofs.Shape.WellFormed

/-!
# The token grammar of shapes

`Holds` says which plain numbers and which radii stand among tokens, and `Accepted` which lists of
tokens are accepted, and as which shape: numbers alone, or a keyword and numbers between
parentheses. `read_eq_ok_iff_accepted` says that a text is read as a shape exactly when its tokens
are accepted as that shape, and that every other text is refused.
-/

namespace SpatialQuery

/-- Tokens are plain numbers and numbers behind `d=`, each in their order, with commas anywhere. -/
inductive Token.Holds : List Token → List Binary64 → List Binary64 → Prop
  | nil : Holds [] [] []
  | number {x tokens xs rs} (tail : Holds tokens xs rs) : Holds (.number x :: tokens) (x :: xs) rs
  | comma {tokens xs rs} (tail : Holds tokens xs rs) : Holds (.comma :: tokens) xs rs
  | group {d r tokens xs rs} (hd : Text.agreesUpToCase d ['d'] = true)
      (tail : Holds tokens xs rs) : Holds (.word d :: .equals :: .number r :: tokens) xs (r :: rs)

/-- The tokens that are accepted as a shape. -/
inductive Shape.Accepted : List Token → Shape → Prop
  | barePoint {tokens x y} (h : Token.Holds tokens [x, y] []) : Accepted tokens (point ⟨x, y⟩)
  | bareRectangle {tokens a b c d} (h : Token.Holds tokens [a, b, c, d] [])
      (hx : a.le c = true) (hy : b.le d = true) : Accepted tokens (rectangle ⟨a, b, c, d⟩)
  | point {k body x y} (hk : Text.agreesUpToCase k "POINT".toList = true)
      (h : Token.Holds body [x, y] []) :
      Accepted (.word k :: .openParen :: (body ++ [.closeParen])) (point ⟨x, y⟩)
  | rectangle {k body a b c d}
      (hk : Text.agreesUpToCase k "ENVELOPE".toList = true ∨
        Text.agreesUpToCase k "RECT".toList = true)
      (h : Token.Holds body [a, b, c, d] []) (hx : a.le c = true) (hy : b.le d = true) :
      Accepted (.word k :: .openParen :: (body ++ [.closeParen])) (rectangle ⟨a, b, c, d⟩)
  | circle {k body x y r radii} (hk : Text.agreesUpToCase k "CIRCLE".toList = true)
      (h : Token.Holds body [x, y] radii) (hr : radii.getLast? = some r)
      (hradius : r.lt .zero = false) :
      Accepted (.word k :: .openParen :: (body ++ [.closeParen])) (circle ⟨⟨x, y⟩, r⟩)
  | thirdNumber {k body x y r} (hk : Text.agreesUpToCase k "CIRCLE".toList = true)
      (h : Token.Holds body [x, y, r] []) (hradius : r.lt .zero = false) :
      Accepted (.word k :: .openParen :: (body ++ [.closeParen])) (.circle ⟨⟨x, y⟩, r⟩)

theorem Binary64.lt_of_le {x y : Binary64} (h : x.le y = true) : y.lt x = false := by
  unfold le at h
  split at h
  · next i j hi hj => simpa [lt, hi, hj] using h
  · cases h

namespace Token

theorem holds_of_written {tokens : List Token} {items : List Item}
    (h : Item.Written tokens items) :
    Holds tokens (items.filterMap Item.coordinate?) (items.filterMap Item.radius?) := by
  induction h with
  | nil => exact .nil
  | coordinate _ ih => exact .number ih
  | comma _ ih => exact .comma ih
  | radius hw _ ih => exact .group hw ih

theorem Holds.exists_written {tokens : List Token} {xs rs : List Binary64}
    (h : Holds tokens xs rs) :
    ∃ items, Item.Written tokens items ∧ items.filterMap Item.coordinate? = xs ∧
      items.filterMap Item.radius? = rs := by
  induction h with
  | nil => exact ⟨[], .nil, rfl, rfl⟩
  | @number x _ _ _ _ ih =>
      obtain ⟨items, hitems, rfl, rfl⟩ := ih
      exact ⟨.coordinate x :: items, .coordinate hitems, rfl, rfl⟩
  | comma _ ih =>
      obtain ⟨items, hitems, hxs, hrs⟩ := ih
      exact ⟨items, .comma hitems, hxs, hrs⟩
  | @group _ r _ _ _ hd _ ih =>
      obtain ⟨items, hitems, rfl, rfl⟩ := ih
      exact ⟨.radius r :: items, .radius hd hitems, rfl, rfl⟩

/-- Where no number stands behind `d=`, no token is a word. -/
theorem Holds.word_not_mem {tokens : List Token} {xs rs : List Binary64}
    (h : Holds tokens xs rs) (hrs : rs = []) (w : Text) : word w ∉ tokens := by
  induction h with
  | nil => exact List.not_mem_nil
  | number _ ih => exact List.not_mem_cons_of_ne_of_not_mem (by simp) (ih hrs)
  | comma _ ih => exact List.not_mem_cons_of_ne_of_not_mem (by simp) (ih hrs)
  | group _ _ _ => cases hrs

end Token

namespace Keyword

/-- A word is a keyword when the two agree up to case. -/
theorem ofWord?_eq_some_iff {w : Text} {keyword : Keyword} :
    ofWord? w = some keyword ↔ Text.agreesUpToCase w keyword.name = true := by
  have hname : keyword.name.upper = keyword.name := by cases keyword <;> decide
  unfold Text.agreesUpToCase
  rw [hname, beq_iff_eq]
  constructor
  · intro h
    have hword := List.find?_some h
    exact (beq_iff_eq.1 hword).symm
  · intro h
    unfold ofWord?
    rw [h]
    cases keyword <;> decide

end Keyword

namespace Shape

variable {tokens body : List Token} {xs rs : List Binary64} {s : Shape}

section Sound

/-- Without a keyword the numbers of a point or a rectangle are all the tokens there are. -/
theorem accepted_of_bare (h : Token.Holds tokens xs rs) (hbare : s.HasWord none)
    (hnumbers : s.HasNumbers xs rs.getLast?) (hordered : s.isOrdered = true) :
    Accepted tokens s := by
  generalize hlast : rs.getLast? = last at hnumbers
  cases hnumbers with
  | point =>
      obtain rfl := List.getLast?_eq_none_iff.1 hlast
      exact .barePoint h
  | rectangle _ =>
      obtain rfl := List.getLast?_eq_none_iff.1 hlast
      obtain ⟨hx, hy⟩ := Bool.and_eq_true_iff.1 hordered
      exact .bareRectangle h hx hy
  | circle _ => exact absurd rfl (hbare _)
  | thirdNumber _ => exact absurd rfl (hbare _)

theorem accepted_of_keyword {w : Text} (h : Token.Holds body xs rs) (hword : s.HasWord (some w))
    (hnumbers : s.HasNumbers xs rs.getLast?) (hordered : s.isOrdered = true) :
    Accepted (.word w :: .openParen :: (body ++ [.closeParen])) s := by
  obtain ⟨keyword, hmem, hkeyword⟩ := hword
  have hagrees := Keyword.ofWord?_eq_some_iff.1 hkeyword
  generalize hlast : rs.getLast? = last at hnumbers
  cases hnumbers with
  | point =>
      obtain rfl := List.mem_singleton.1 hmem
      obtain rfl := List.getLast?_eq_none_iff.1 hlast
      exact .point hagrees h
  | rectangle _ =>
      obtain rfl := List.getLast?_eq_none_iff.1 hlast
      obtain ⟨hx, hy⟩ := Bool.and_eq_true_iff.1 hordered
      rcases List.mem_pair.1 hmem with rfl | rfl
      · exact .rectangle (.inl hagrees) h hx hy
      · exact .rectangle (.inr hagrees) h hx hy
  | circle hradius =>
      obtain rfl := List.mem_singleton.1 hmem
      exact .circle hagrees h hlast hradius
  | thirdNumber hradius =>
      obtain rfl := List.mem_singleton.1 hmem
      obtain rfl := List.getLast?_eq_none_iff.1 hlast
      exact .thirdNumber hagrees h hradius

theorem accepted_of_written {form : Form} (hform : Form.Written tokens form)
    (hword : s.HasWord form.word) (hnumbers : s.HasNumbers form.coordinates form.radius?)
    (hordered : s.isOrdered = true) : Accepted tokens s := by
  cases hform with
  | bare _ _ hitems =>
      exact accepted_of_bare (Token.holds_of_written hitems) hword hnumbers hordered
  | keyword hitems =>
      exact accepted_of_keyword (Token.holds_of_written hitems) hword hnumbers hordered

end Sound

section Complete

theorem isReversed_of_le {r : Rectangle} (hx : r.minX.le r.maxX = true)
    (hy : r.minY.le r.maxY = true) : r.isReversed = false := by
  simp [Rectangle.isReversed, Binary64.lt_of_le hx, Binary64.lt_of_le hy]

/-- Bare numbers write a form without a word. -/
theorem exists_written_of_bare (h : Token.Holds tokens xs []) (hne : xs ≠ [])
    (hbare : s.HasWord none) (hnumbers : s.HasNumbers xs none) :
    ∃ form : Form, Form.Written tokens form ∧ s.HasWord form.word ∧
      s.HasNumbers form.coordinates form.radius? := by
  obtain ⟨items, hitems, hxs, hrs⟩ := h.exists_written
  have htokens : tokens ≠ [] := by
    rintro rfl
    cases h
    exact hne rfl
  have hword : ∀ w, tokens.head? ≠ some (.word w) := fun w hw =>
    h.word_not_mem rfl w (List.mem_of_mem_head? hw)
  refine ⟨⟨none, items⟩, .bare htokens hword hitems, hbare, ?_⟩
  unfold Form.coordinates Form.radius?
  rw [hxs, hrs]
  exact hnumbers

/-- Numbers in parentheses write a form with the word in front of them. -/
theorem exists_written_of_keyword {w : Text} (h : Token.Holds body xs rs) (keyword : Keyword)
    (hmem : keyword ∈ s.keywords) (hw : Text.agreesUpToCase w keyword.name = true)
    (hnumbers : s.HasNumbers xs rs.getLast?) :
    ∃ form : Form, Form.Written (.word w :: .openParen :: (body ++ [.closeParen])) form ∧
      s.HasWord form.word ∧ s.HasNumbers form.coordinates form.radius? := by
  obtain ⟨items, hitems, hxs, hrs⟩ := h.exists_written
  refine ⟨⟨some w, items⟩, .keyword hitems,
    ⟨keyword, hmem, Keyword.ofWord?_eq_some_iff.2 hw⟩, ?_⟩
  unfold Form.coordinates Form.radius?
  rw [hxs, hrs]
  exact hnumbers

/-- Accepted tokens write a form with the word and the numbers of the shape. -/
theorem Accepted.exists_written (h : Accepted tokens s) :
    ∃ form : Form, Form.Written tokens form ∧ s.HasWord form.word ∧
      s.HasNumbers form.coordinates form.radius? := by
  cases h with
  | barePoint h => exact exists_written_of_bare h (List.cons_ne_nil _ _) (by simp [HasWord]) .point
  | bareRectangle h hx hy =>
      exact exists_written_of_bare h (List.cons_ne_nil _ _) (by simp [HasWord])
        (.rectangle (isReversed_of_le hx hy))
  | point hk h => exact exists_written_of_keyword h .point (by simp [keywords]) hk .point
  | rectangle hk h hx hy =>
      have hnumbers := HasNumbers.rectangle (isReversed_of_le hx hy)
      rcases hk with hk | hk
      · exact exists_written_of_keyword h .envelope (by simp [keywords]) hk hnumbers
      · exact exists_written_of_keyword h .rect (by simp [keywords]) hk hnumbers
  | circle hk h hr hradius =>
      refine exists_written_of_keyword h .circle (by simp [keywords]) hk ?_
      rw [hr]
      exact .circle hradius
  | thirdNumber hk h hradius =>
      exact exists_written_of_keyword h .circle (by simp [keywords]) hk (.thirdNumber hradius)

end Complete

theorem read_eq_ok_iff_exists_accepted {t : Text} :
    read t = .ok s ↔ ∃ tokens, Token.Lexed t tokens ∧ Accepted tokens s := by
  constructor
  · intro h
    obtain ⟨tokens, form, htokens, hform, hword, hnumbers⟩ := read_eq_ok_iff.1 h
    exact ⟨tokens, htokens,
      accepted_of_written hform hword hnumbers (wellFormed_of_read h).ordered⟩
  · rintro ⟨tokens, htokens, h⟩
    obtain ⟨form, hform, hword, hnumbers⟩ := h.exists_written
    exact read_eq_ok_iff.2 ⟨tokens, form, htokens, hform, hword, hnumbers⟩

/-- The tokens that are found in a text are those that it falls into. A text is read as a shape
exactly when they are accepted as that shape, and it is refused otherwise. The numbers among them
are always finite. -/
theorem read_eq_ok_iff_accepted (t : Text) :
    (∀ tokens, Token.ofText t = .ok tokens ↔ Token.Lexed t tokens) ∧
      (∀ s, read t = .ok s ↔ ∃ tokens, Token.Lexed t tokens ∧ Accepted tokens s) ∧
      ((∃ e, read t = .error e) ↔ ∀ s tokens, Token.Lexed t tokens → ¬Accepted tokens s) ∧
      ∀ tokens x, Token.Lexed t tokens → .number x ∈ tokens → x.isFinite = true := by
  refine ⟨fun tokens => Token.ofText_eq_ok_iff, fun s => read_eq_ok_iff_exists_accepted,
    ⟨?_, fun h => ?_⟩, fun tokens x htokens hx => Token.isFinite_of_mem_lexed htokens hx⟩
  · rintro ⟨e, he⟩ s tokens htokens h
    rw [read_eq_ok_iff_exists_accepted.2 ⟨tokens, htokens, h⟩] at he
    cases he
  · cases hread : read t with
    | error e => exact ⟨e, rfl⟩
    | ok s =>
        obtain ⟨tokens, htokens, haccepted⟩ := read_eq_ok_iff_exists_accepted.1 hread
        exact absurd haccepted (h s tokens htokens)

end Shape

end SpatialQuery
