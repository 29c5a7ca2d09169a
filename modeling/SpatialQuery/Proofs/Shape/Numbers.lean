import SpatialQuery.Proofs.Shape.Grammar

/-!
# The numbers of a text and of its shape

What a text writes in numbers goes into the fields of its shape, with one exception: a number behind
`d=` is in no field when another one follows behind a later `d=`. `numbers_of_read` says that
nothing else is lost and nothing is added, so that the numbers of a text are exactly those of its
shape unless it writes a radius twice.
-/

namespace SpatialQuery

namespace Token

/-- The number that a token is. -/
def number? : Token → Option Binary64
  | number x => some x
  | _ => none

/-- The numbers among tokens, in their order. -/
def numbers (tokens : List Token) : List Binary64 := tokens.filterMap number?

/-- The numbers that stand right behind an equals sign, in their order. -/
def radii : List Token → List Binary64
  | [] => []
  | .equals :: .number r :: rest => r :: radii rest
  | _ :: rest => radii rest

variable {tokens body : List Token} {xs rs : List Binary64}

/-- Every number among items is a plain one or stands behind `d=`. -/
theorem Holds.numbers_append_perm (h : Holds tokens xs rs) (rest : List Token) :
    (numbers (tokens ++ rest)).Perm (xs ++ rs ++ numbers rest) := by
  induction h with
  | nil => exact .refl _
  | number _ ih => exact ih.cons _
  | comma _ ih => exact ih
  | @group _ r tokens xs rs _ _ ih =>
      calc
        (r :: numbers (tokens ++ rest)).Perm (r :: (xs ++ rs ++ numbers rest)) := ih.cons r
        _ = r :: (xs ++ (rs ++ numbers rest)) := by rw [List.append_assoc]
        List.Perm _ (xs ++ r :: (rs ++ numbers rest)) := List.perm_middle.symm
        _ = xs ++ r :: rs ++ numbers rest := by simp

theorem Holds.radii_append (h : Holds tokens xs rs) (rest : List Token) :
    radii (tokens ++ rest) = rs ++ radii rest := by
  induction h with
  | nil => rfl
  | number _ ih => exact ih
  | comma _ ih => exact ih
  | group _ _ ih => exact congrArg (List.cons _) ih

/-- Tokens write plain numbers and radii, whatever else stands among them. -/
structure Numbers (tokens : List Token) (xs rs : List Binary64) : Prop where
  perm : (numbers tokens).Perm (xs ++ rs)
  radii_eq : radii tokens = rs

theorem Holds.numbers (h : Holds tokens xs rs) : Numbers tokens xs rs where
  perm := by simpa [Token.numbers] using h.numbers_append_perm []
  radii_eq := by simpa [radii] using h.radii_append []

/-- The keyword and the parentheses add no number. -/
theorem Holds.numbers_of_keyword (h : Holds body xs rs) (k : Text) :
    Numbers (.word k :: .openParen :: (body ++ [.closeParen])) xs rs where
  perm := by
    have hbody := h.numbers_append_perm [.closeParen]
    have hclose : Token.numbers [.closeParen] = [] := rfl
    rw [hclose, List.append_nil] at hbody
    exact hbody
  radii_eq := by simpa [radii] using h.radii_append [.closeParen]

end Token

namespace Shape

variable {tokens : List Token} {s : Shape}

/-- The numbers of a shape are those that its tokens write, but for all radii before the last. -/
theorem Accepted.exists_numbers (h : Accepted tokens s) :
    ∃ xs rs, Token.Numbers tokens xs rs ∧ (s.numbers ++ rs.dropLast).Perm (xs ++ rs) := by
  cases h with
  | barePoint h => exact ⟨_, _, h.numbers, .refl _⟩
  | bareRectangle h _ _ => exact ⟨_, _, h.numbers, .refl _⟩
  | point _ h => exact ⟨_, _, h.numbers_of_keyword _, .refl _⟩
  | rectangle _ h _ _ => exact ⟨_, _, h.numbers_of_keyword _, .refl _⟩
  | @circle _ _ x y r radii _ h hr _ =>
      refine ⟨_, _, h.numbers_of_keyword _, ?_⟩
      have hradii : radii = radii.dropLast ++ [r] :=
        (List.dropLast_append_getLast? r hr).symm
      have hperm : ([r] ++ radii.dropLast).Perm radii := by
        rw [hradii, List.dropLast_concat]
        exact List.perm_append_comm
      exact hperm.append_left [x, y]
  | thirdNumber _ h _ => exact ⟨_, _, h.numbers_of_keyword _, .refl _⟩

theorem Accepted.numbers_perm (h : Accepted tokens s) :
    (Token.numbers tokens).Perm (s.numbers ++ (Token.radii tokens).dropLast) := by
  obtain ⟨xs, rs, hnumbers, hperm⟩ := h.exists_numbers
  rw [hnumbers.radii_eq]
  exact hnumbers.perm.trans hperm.symm

/-- A point has two numbers, a circle three, and a rectangle four. -/
theorem length_numbers (s : Shape) : s.numbers.length ∈ [2, 3, 4] := by
  cases s <;> simp [numbers, items]

theorem numbers_perm_of_read {t : Text} (htokens : Token.ofText t = .ok tokens)
    (hread : read t = .ok s) :
    (Token.numbers tokens).Perm (s.numbers ++ (Token.radii tokens).dropLast) := by
  obtain ⟨others, hothers, haccepted⟩ := read_eq_ok_iff_exists_accepted.1 hread
  obtain rfl := (Token.ofText_eq_ok_iff.1 htokens).unique hothers
  exact haccepted.numbers_perm

/-- A text keeps all its numbers exactly when it writes at most one radius. -/
theorem numbers_perm_iff_of_read {t : Text} (htokens : Token.ofText t = .ok tokens)
    (hread : read t = .ok s) :
    (Token.numbers tokens).Perm s.numbers ↔ (Token.radii tokens).length ≤ 1 := by
  have hperm := numbers_perm_of_read htokens hread
  have hlength := hperm.length_eq
  rw [List.length_append, List.length_dropLast] at hlength
  constructor
  · intro h
    have hsame := h.length_eq
    omega
  · intro h
    have hnil : (Token.radii tokens).dropLast = [] := by
      apply List.eq_nil_of_length_eq_zero
      rw [List.length_dropLast]
      omega
    rwa [hnil, List.append_nil] at hperm

/-- The numbers that a text writes are those of the shape it is read as, and every radius that a
later one takes the place of. So no number is lost where a text writes at most one radius, and such
a text is refused if no shape has as many numbers. -/
theorem numbers_of_read (t : Text) (tokens : List Token) (htokens : Token.ofText t = .ok tokens) :
    (∀ s, read t = .ok s →
      (Token.numbers tokens).Perm (s.numbers ++ (Token.radii tokens).dropLast) ∧
        ((Token.numbers tokens).Perm s.numbers ↔ (Token.radii tokens).length ≤ 1)) ∧
      ((Token.radii tokens).length ≤ 1 → (Token.numbers tokens).length ∉ [2, 3, 4] →
        ∃ e, read t = .error e) := by
  constructor
  · intro s hread
    exact ⟨numbers_perm_of_read htokens hread, numbers_perm_iff_of_read htokens hread⟩
  · intro hradii hlength
    cases hread : read t with
    | error e => exact ⟨e, rfl⟩
    | ok s =>
        have hperm := (numbers_perm_iff_of_read htokens hread).2 hradii
        exact absurd (hperm.length_eq ▸ s.length_numbers) hlength

theorem numbers_of_read_of_thirdNumber :
    ∃ tokens, Token.ofText "circle(0,0 0)".toList = .ok tokens ∧
      (Token.numbers tokens).Perm (circle ⟨⟨.zero, .zero⟩, .zero⟩).numbers := by
  let tokens : List Token := [.word "circle".toList, .openParen, .number .zero, .comma,
    .number .zero, .number .zero, .closeParen]
  have htokens : Token.ofText "circle(0,0 0)".toList = .ok tokens := by decide +kernel
  have hread : read "circle(0,0 0)".toList = .ok (circle ⟨⟨.zero, .zero⟩, .zero⟩) := by
    decide +kernel
  have hradii : (Token.radii tokens).length ≤ 1 := by decide
  exact ⟨tokens, htokens, ((numbers_of_read _ _ htokens).1 _ hread).2.2 hradii⟩

/-- The first radius is in no field. -/
theorem not_perm_numbers_of_two_radii :
    ∃ tokens s, Token.ofText "CIRCLE(0 0 d=1 d=0)".toList = .ok tokens ∧
      read "CIRCLE(0 0 d=1 d=0)".toList = .ok s ∧ ¬(Token.numbers tokens).Perm s.numbers := by
  let one : Binary64 := .ofRank false (1023 * 2 ^ 52)
  let tokens : List Token := [.word "CIRCLE".toList, .openParen, .number .zero, .number .zero,
    .word ['d'], .equals, .number one, .word ['d'], .equals, .number .zero, .closeParen]
  refine ⟨tokens, circle ⟨⟨.zero, .zero⟩, .zero⟩, ?_, ?_, ?_⟩
  · decide +kernel
  · decide +kernel
  · decide +kernel

end Shape

end SpatialQuery
