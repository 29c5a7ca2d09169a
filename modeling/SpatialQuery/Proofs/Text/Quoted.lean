import SpatialQuery.Proofs.Text.Spacing
import SpatialQuery.Text.Quoted

/-!
# What quotation marks keep

`Escapes` lists the forms that a character can have between quotation marks. No form holds a control
character, and none is the beginning of another one, so that a quoted text can be told from whatever
stands behind it: `quoted_append_inj` finds the end of a quoted text and the text itself.
-/

namespace SpatialQuery.Text

/-- A text without control characters. -/
def IsPlain (t : Text) : Prop := ∀ c ∈ t, isControl c = false

instance (t : Text) : Decidable t.IsPlain :=
  decidable_of_iff (t.all (!isControl ·) = true) (by simp [IsPlain])

theorem IsPlain.append {s t : Text} (hs : s.IsPlain) (ht : t.IsPlain) : (s ++ t).IsPlain :=
  List.forall_mem_append.2 ⟨hs, ht⟩

theorem isPlain_intercalate {separator : Text} {pieces : List Text} (h : separator.IsPlain)
    (hpieces : ∀ piece ∈ pieces, piece.IsPlain) : IsPlain (separator.intercalate pieces) := by
  intro c hc
  by_contra hcontrol
  have hnone : ∀ t : Text, t.IsPlain → c ∉ t := fun t ht hmem => hcontrol (ht c hmem)
  exact not_mem_intercalate (hnone _ h) (fun piece hpiece => hnone _ (hpieces piece hpiece)) hc

section Hexadecimal

theorem exists_digitChar_of_mem_toDigits {n : Nat} {c : Char} (h : c ∈ Nat.toDigits 16 n) :
    ∃ d < 16, c = d.digitChar := by
  induction n using Nat.strongRecOn with
  | ind n ih =>
      rw [Nat.toDigits_eq_if (by decide)] at h
      split at h
      · next hn => exact ⟨n, hn, List.mem_singleton.1 h⟩
      · rcases List.mem_append.1 h with h | h
        · exact ih (n / 16) (by omega) h
        · exact ⟨n % 16, Nat.mod_lt n (by decide), List.mem_singleton.1 h⟩

theorem digitChar_inj {m n : Nat} (hm : m < 16) (hn : n < 16) (h : m.digitChar = n.digitChar) :
    m = n := by
  have hall : ∀ a < 16, ∀ b < 16, a.digitChar = b.digitChar → a = b := by decide
  exact hall m hm n hn h

theorem toDigits_append_ne_singleton (n : Nat) (c d : Char) : Nat.toDigits 16 n ++ [c] ≠ [d] := by
  intro h
  have hsplit : Nat.toDigits 16 n ++ [c] = [] ++ [d] := h
  exact Nat.toDigits_ne_nil (List.append_inj' hsplit rfl).1

theorem toDigits_inj {m n : Nat} (h : Nat.toDigits 16 m = Nat.toDigits 16 n) : m = n := by
  induction m using Nat.strongRecOn generalizing n with
  | ind m ih =>
      rw [Nat.toDigits_eq_if (by decide), Nat.toDigits_eq_if (n := n) (by decide)] at h
      by_cases hm : m < 16
      · rw [if_pos hm] at h
        by_cases hn : n < 16
        · rw [if_pos hn] at h
          exact digitChar_inj hm hn (List.singleton_inj.1 h)
        · rw [if_neg hn] at h
          exact absurd h.symm (toDigits_append_ne_singleton _ _ _)
      · rw [if_neg hm] at h
        by_cases hn : n < 16
        · rw [if_pos hn] at h
          exact absurd h (toDigits_append_ne_singleton _ _ _)
        · rw [if_neg hn] at h
          obtain ⟨hinit, hlast⟩ := List.append_inj' h rfl
          have hquotient : m / 16 = n / 16 := ih (m / 16) (by omega) hinit
          have hrest : m % 16 = n % 16 := digitChar_inj (Nat.mod_lt m (by decide))
            (Nat.mod_lt n (by decide)) (List.singleton_inj.1 hlast)
          omega

end Hexadecimal

/-- The characters that are written as a backslash and a letter, with their letters. -/
def escapeLetters : List (Char × Char) :=
  [('\x00', '0'), ('\t', 't'), ('\r', 'r'), ('\n', 'n'), ('\\', '\\'), ('"', '"')]

/-- A character stands between quotation marks as it is, as a backslash and a letter, or by its
number. -/
inductive Escapes : Char → Text → Prop
  | shown {c} (hbackslash : c ≠ '\\') (hquote : c ≠ '"') (hcontrol : isControl c = false) :
      Escapes c [c]
  | letter {c letter} (h : (c, letter) ∈ escapeLetters) : Escapes c ['\\', letter]
  | number (c) : Escapes c (codePointEscape c)

theorem escapes_escaped (c : Char) : Escapes c (escaped c) := by
  unfold escaped
  split_ifs with hnull htab hreturn hfeed hbackslash hquote hshown
  · exact .letter (by simp [escapeLetters, hnull])
  · exact .letter (by simp [escapeLetters, htab])
  · exact .letter (by simp [escapeLetters, hreturn])
  · exact .letter (by simp [escapeLetters, hfeed])
  · exact .letter (by simp [escapeLetters, hbackslash])
  · exact .letter (by simp [escapeLetters, hquote])
  · refine .shown hbackslash hquote ?_
    unfold isShown at hshown
    simp only [Bool.and_eq_true, Bool.not_eq_true'] at hshown
    exact hshown.1
  · exact .number c

section Forms

variable {c d : Char} {s t u v : Text}

theorem Escapes.isPlain (h : Escapes c s) : s.IsPlain := by
  cases h with
  | shown _ _ hcontrol =>
      intro d hd
      obtain rfl := List.mem_singleton.1 hd
      exact hcontrol
  | letter h =>
      have hletters : ∀ p ∈ escapeLetters, IsPlain ['\\', p.2] := by decide
      exact hletters _ h
  | number =>
      have hdigits : ∀ n < 16, isControl n.digitChar = false := by decide
      have hnumber : IsPlain (Nat.toDigits 16 c.toNat) := by
        intro d hd
        obtain ⟨n, hn, rfl⟩ := exists_digitChar_of_mem_toDigits hd
        exact hdigits n hn
      have hstart : IsPlain ['\\', 'u', '\x7b'] := by decide
      exact (hstart.append hnumber).append (by decide)

theorem Escapes.exists_cons (h : Escapes c s) : ∃ head rest, s = head :: rest ∧ head ≠ '"' := by
  cases h with
  | shown _ hquote _ => exact ⟨c, [], rfl, hquote⟩
  | letter _ => exact ⟨'\\', _, rfl, by decide⟩
  | number => exact ⟨'\\', _, rfl, by decide⟩

/-- The closing brace is no digit, so it ends the number of a character. -/
theorem codePointEscape_append_inj (h : codePointEscape c ++ u = codePointEscape d ++ v) :
    c = d ∧ u = v := by
  have hbrace : ∀ n, '\x7d' ∉ Nat.toDigits 16 n := by
    intro n hmem
    obtain ⟨k, _, hk⟩ := exists_digitChar_of_mem_toDigits hmem
    exact Nat.digitChar_ne '\x7d' (by decide) hk.symm
  have hcut : ∀ (e : Char) (w : Text), cutFirst '\x7d' ((codePointEscape e ++ w).drop 3) =
      some (Nat.toDigits 16 e.toNat, w) := by
    intro e w
    refine cutFirst_eq_some_iff.2 ⟨?_, hbrace _⟩
    simp [codePointEscape]
  have hparts := (hcut c u).symm.trans (h ▸ hcut d v)
  obtain ⟨hdigits, hrest⟩ := Prod.mk.inj (Option.some.inj hparts)
  exact ⟨Char.toNat_inj.1 (toDigits_inj hdigits), hrest⟩

/-- The forms of characters can be told from each other whatever stands behind them. -/
theorem Escapes.append_inj (hs : Escapes c s) (ht : Escapes d t) (h : s ++ u = t ++ v) :
    c = d ∧ u = v := by
  have hletters : ∀ p ∈ escapeLetters, ∀ q ∈ escapeLetters, p.2 = q.2 → p.1 = q.1 := by decide
  have hnumber : ∀ p ∈ escapeLetters, p.2 ≠ 'u' := by decide
  cases hs with
  | shown hbackslash _ _ =>
      cases ht with
      | shown _ _ _ => exact List.cons.inj h
      | letter _ => exact absurd (List.cons.inj h).1 hbackslash
      | number => exact absurd (List.cons.inj h).1 hbackslash
  | letter hc =>
      cases ht with
      | shown hbackslash _ _ => exact absurd (List.cons.inj h).1.symm hbackslash
      | letter hd =>
          obtain ⟨hletter, hrest⟩ := List.cons.inj (List.cons.inj h).2
          exact ⟨hletters _ hc _ hd hletter, hrest⟩
      | number => exact absurd (List.cons.inj (List.cons.inj h).2).1 (hnumber _ hc)
  | number =>
      cases ht with
      | shown hbackslash _ _ => exact absurd (List.cons.inj h).1.symm hbackslash
      | letter hd => exact absurd (List.cons.inj (List.cons.inj h).2).1.symm (hnumber _ hd)
      | number => exact codePointEscape_append_inj h

end Forms

theorem isPlain_quoted (t : Text) : t.quoted.IsPlain := by
  have hmark : IsPlain ['"'] := by decide
  have hletters : IsPlain (t.flatMap escaped) := by
    intro c hc
    obtain ⟨d, _, hd⟩ := List.mem_flatMap.1 hc
    exact (escapes_escaped d).isPlain c hd
  exact (hmark.append hletters).append hmark

/-- The first quotation mark that is not escaped ends a text. -/
theorem flatMap_escaped_append_inj {s t u v : Text}
    (h : s.flatMap escaped ++ '"' :: u = t.flatMap escaped ++ '"' :: v) : s = t ∧ u = v := by
  induction s generalizing t with
  | nil =>
      cases t with
      | nil => exact ⟨rfl, (List.cons.inj h).2⟩
      | cons d t =>
          obtain ⟨head, rest, hd, hne⟩ := (escapes_escaped d).exists_cons
          rw [List.flatMap_cons, hd] at h
          exact absurd (List.cons.inj h).1.symm hne
  | cons c s ih =>
      cases t with
      | nil =>
          obtain ⟨head, rest, hc, hne⟩ := (escapes_escaped c).exists_cons
          rw [List.flatMap_cons, hc] at h
          exact absurd (List.cons.inj h).1 hne
      | cons d t =>
          rw [List.flatMap_cons, List.flatMap_cons, List.append_assoc, List.append_assoc] at h
          obtain ⟨rfl, hrest⟩ := (escapes_escaped c).append_inj (escapes_escaped d) h
          obtain ⟨rfl, hbehind⟩ := ih hrest
          exact ⟨rfl, hbehind⟩

/-- A quoted text can be told from what stands behind it. -/
theorem quoted_append_inj {s t u v : Text} (h : s.quoted ++ u = t.quoted ++ v) : s = t ∧ u = v := by
  unfold quoted at h
  rw [List.cons_append, List.cons_append, List.cons_append, List.cons_append, List.append_assoc,
    List.append_assoc] at h
  exact flatMap_escaped_append_inj (List.cons.inj h).2

end SpatialQuery.Text
