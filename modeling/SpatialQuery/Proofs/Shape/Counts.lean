import SpatialQuery.Proofs.Shape.Grammar
import SpatialQuery.Proofs.Shape.Located
import SpatialQuery.Proofs.Shape.Printed

/-!
# Messages that count numbers

A text with the wrong number of plain numbers is refused with a message that tells how many there
are. `read_error_count_iff` says for which texts that happens, and that the number told is the
number of plain numbers that are written. The message is not always true of the shape, though:
where a radius is written that the shape does not take, the number of plain numbers is blamed
even if it is right (`read_of_unwanted_radius`).
-/

namespace SpatialQuery

namespace ShapeError

variable {e : ShapeError} {keyword : Keyword} {n : Nat}

theorem cutLast_message_wrongCount (keyword : Keyword) (n : Nat) :
    Text.cutLast ' ' (wrongCount keyword n).message =
      some ("wrong number of coordinates for ".toList ++ keyword.name ++ [':'], Text.ofNat n) := by
  have hcolon : ": ".toList = [':'] ++ [' '] := rfl
  change Text.cutLast ' ' (_ ++ ": ".toList ++ _) = _
  rw [hcolon, ← List.append_assoc, List.append_assoc _ [' ']]
  exact Text.cutLast_append_ofNat _ n

theorem cutLast_message_wrongBareCount (n : Nat) :
    Text.cutLast ' ' (wrongBareCount n).message =
      some ("expected 2 or 4 coordinates, got".toList, Text.ofNat n) := by
  have hgot : "expected 2 or 4 coordinates, got ".toList =
      "expected 2 or 4 coordinates, got".toList ++ [' '] := by decide
  change Text.cutLast ' ' ("expected 2 or 4 coordinates, got ".toList ++ _) = _
  rw [hgot, List.append_assoc]
  exact Text.cutLast_append_ofNat _ n

theorem eq_wrongCount_of_message (h : e.message = (wrongCount keyword n).message) :
    e = wrongCount keyword n := by
  have hhead : e.message.head? = some 'w' := by
    rw [h]
    rfl
  cases e with
  | wrongCount other m =>
      have hcut := (cutLast_message_wrongCount other m).symm.trans
        (h ▸ cutLast_message_wrongCount keyword n)
      obtain ⟨hname, hcount⟩ := Prod.mk.inj (Option.some.inj hcut)
      have hsame := List.append_cancel_left (List.append_cancel_right hname)
      have hother := (Keyword.ofWord?_name other).symm.trans (hsame ▸ Keyword.ofWord?_name keyword)
      rw [Option.some.inj hother, Text.ofNat_injective hcount]
  | _ => cases hhead

/-- Four messages begin with the same letter, but no other one has this tenth character. -/
theorem eq_wrongBareCount_of_message (h : e.message = (wrongBareCount n).message) :
    e = wrongBareCount n := by
  have htenth : (e.message.drop 9).head? = some '2' := by
    rw [h]
    rfl
  cases e with
  | wrongBareCount m =>
      have hcut := (cutLast_message_wrongBareCount m).symm.trans
        (h ▸ cutLast_message_wrongBareCount n)
      rw [Text.ofNat_injective (Prod.mk.inj (Option.some.inj hcut)).2]
  | _ => cases htenth

end ShapeError

namespace Shape

variable {t : Text} {keyword : Keyword} {n : Nat}

theorem isSome_getLast?_eq (rs : List Binary64) : rs.getLast?.isSome = !rs.isEmpty := by
  cases rs <;> simp

/-- A text is refused for the numbers behind its keyword when it is written in full otherwise. -/
theorem read_eq_wrongCount_iff :
    read t = .error (.wrongCount keyword n) ↔
      ∃ k body xs rs, Token.ofText t = .ok (.word k :: .openParen :: (body ++ [.closeParen])) ∧
        Text.agreesUpToCase k keyword.name = true ∧ Token.Holds body xs rs ∧ n = xs.length ∧
          n ∉ counts (some keyword) (!rs.isEmpty) := by
  constructor
  · intro h
    rcases read_eq_error_iff.1 h with h | ⟨_, _, h⟩ | ⟨tokens, form, htokens, hform, h⟩
    · obtain ⟨_, _, h⟩ := Token.exists_of_ofLexemes_error h
      cases h
    · cases Form.refusedFor_of_ofTokens h
    · cases h with
      | wrongCount hw hk hcount =>
          cases hform with
          | bare _ _ _ => cases hw
          | @keyword k body _ hitems =>
              obtain rfl := Option.some.inj hw
              unfold Form.radius? at hcount
              rw [isSome_getLast?_eq] at hcount
              exact ⟨k, body, _, _, Token.ofText_eq_ok_iff.2 htokens,
                Keyword.ofWord?_eq_some_iff.1 hk, Token.holds_of_written hitems, rfl, hcount⟩
  · rintro ⟨k, body, xs, rs, htokens, hk, hholds, rfl, hcount⟩
    obtain ⟨items, hitems, rfl, rfl⟩ := hholds.exists_written
    rw [← isSome_getLast?_eq] at hcount
    have hrefused : RefusedFor ⟨some k, items⟩ _ :=
      .wrongCount rfl (Keyword.ofWord?_eq_some_iff.2 hk) hcount
    exact read_eq_error_iff.2 (.inr (.inr
      ⟨_, _, Token.ofText_eq_ok_iff.1 htokens, .keyword hitems, hrefused⟩))

theorem read_eq_wrongBareCount_iff :
    read t = .error (.wrongBareCount n) ↔
      ∃ tokens xs rs, Token.ofText t = .ok tokens ∧ tokens ≠ [] ∧
        (∀ w, tokens.head? ≠ some (.word w)) ∧ Token.Holds tokens xs rs ∧ n = xs.length ∧
          n ∉ counts none (!rs.isEmpty) := by
  constructor
  · intro h
    rcases read_eq_error_iff.1 h with h | ⟨_, _, h⟩ | ⟨tokens, form, htokens, hform, h⟩
    · obtain ⟨_, _, h⟩ := Token.exists_of_ofLexemes_error h
      cases h
    · cases Form.refusedFor_of_ofTokens h
    · cases h with
      | wrongBareCount hw hcount =>
          cases hform with
          | keyword _ => cases hw
          | bare hne hword hitems =>
              unfold Form.radius? at hcount
              rw [isSome_getLast?_eq] at hcount
              exact ⟨tokens, _, _, Token.ofText_eq_ok_iff.2 htokens, hne, hword,
                Token.holds_of_written hitems, rfl, hcount⟩
  · rintro ⟨tokens, xs, rs, htokens, hne, hword, hholds, rfl, hcount⟩
    obtain ⟨items, hitems, rfl, rfl⟩ := hholds.exists_written
    rw [← isSome_getLast?_eq] at hcount
    have hrefused : RefusedFor ⟨none, items⟩ _ := .wrongBareCount rfl hcount
    exact read_eq_error_iff.2 (.inr (.inr
      ⟨_, _, Token.ofText_eq_ok_iff.1 htokens, .bare hne hword hitems, hrefused⟩))

/-- A message on the number of coordinates comes up exactly for a text that is written in full, with
a number of plain numbers that makes no shape together with its radii. The message tells this
number. Without radii it is never one that the keyword takes, nor 2 or 4 where there is none. -/
theorem read_error_count_iff (t : Text) (n : Nat) :
    (∀ keyword : Keyword,
      (∃ e, read t = .error e ∧
          e.message = "wrong number of coordinates for ".toList ++ keyword.name ++
            ": ".toList ++ Text.ofNat n) ↔
        ∃ k body xs rs, Token.ofText t = .ok (.word k :: .openParen :: (body ++ [.closeParen])) ∧
          Text.agreesUpToCase k keyword.name = true ∧ Token.Holds body xs rs ∧ n = xs.length ∧
            n ∉ counts (some keyword) (!rs.isEmpty)) ∧
      ((∃ e, read t = .error e ∧
          e.message = "expected 2 or 4 coordinates, got ".toList ++ Text.ofNat n) ↔
        ∃ tokens xs rs, Token.ofText t = .ok tokens ∧ tokens ≠ [] ∧
          (∀ w, tokens.head? ≠ some (.word w)) ∧ Token.Holds tokens xs rs ∧ n = xs.length ∧
            n ∉ counts none (!rs.isEmpty)) := by
  refine ⟨fun keyword => ?_, ?_⟩
  · rw [← read_eq_wrongCount_iff]
    constructor
    · rintro ⟨e, he, hmessage⟩
      rwa [ShapeError.eq_wrongCount_of_message hmessage] at he
    · intro h
      exact ⟨_, h, rfl⟩
  · rw [← read_eq_wrongBareCount_iff]
    constructor
    · rintro ⟨e, he, hmessage⟩
      rwa [ShapeError.eq_wrongBareCount_of_message hmessage] at he
    · intro h
      exact ⟨_, h, rfl⟩

/-- Two numbers make a point with a keyword and without one, and are blamed all the same. -/
theorem read_of_unwanted_radius :
    (∃ e, read "1 2 d=3".toList = .error e ∧
      e.message = "expected 2 or 4 coordinates, got 2".toList) ∧
    (∃ e, read "POINT(1 2 d=3)".toList = .error e ∧
      e.message = "wrong number of coordinates for POINT: 2".toList) ∧
    2 ∈ counts none false ∧ 2 ∈ counts (some .point) false := by
  refine ⟨⟨.wrongBareCount 2, ?_, ?_⟩, ⟨.wrongCount .point 2, ?_, ?_⟩, ?_, ?_⟩
  · decide +kernel
  · decide +kernel
  · decide +kernel
  · decide +kernel
  · decide
  · decide

end Shape

end SpatialQuery
