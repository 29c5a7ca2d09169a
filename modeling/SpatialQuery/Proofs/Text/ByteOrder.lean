import SpatialQuery.Proofs.Text.Offset

/-!
# The order of bytes

Texts are compared character by character. `bytes_lt_bytes_iff` says that this is the order of the
bytes of their UTF-8 forms: a greater character has a greater byte at the first place where the two
forms differ, even where one of the forms is longer.
-/

namespace SpatialQuery.Text

/-- The bytes of the UTF-8 form of a text, in their order. -/
def bytes (t : Text) : List UInt8 := t.utf8.data.toList

theorem bytes_nil : bytes [] = [] := rfl

theorem bytes_cons (c : Char) (t : Text) : bytes (c :: t) = String.utf8EncodeChar c ++ bytes t := by
  have hcons : utf8 (c :: t) = utf8 [c] ++ utf8 t := utf8_append [c] t
  have hchar : (utf8 [c]).data.toList = String.utf8EncodeChar c := by
    simp [utf8, List.utf8Encode_singleton]
  unfold bytes
  rw [hcons, ByteArray.data_append, Array.toList_append, hchar]

/-- What stands behind two bytes matters only if the bytes are the same. -/
theorem cons_ofNat_lt_cons {m n : Nat} {s t : List UInt8} (hn : n < 256) (hle : m ≤ n)
    (h : m = n → s < t) : UInt8.ofNat m :: s < UInt8.ofNat n :: t := by
  apply List.cons_lt_cons_iff.2
  rcases Nat.lt_or_eq_of_le hle with hlt | heq
  · left
    rw [UInt8.lt_iff_toNat_lt, UInt8.toNat_ofNat_of_lt' (hlt.trans hn), UInt8.toNat_ofNat_of_lt' hn]
    exact hlt
  · right
    exact ⟨congrArg UInt8.ofNat heq, h heq⟩

theorem utf8EncodeChar_append_lt {c d : Char} (h : c < d) (s t : List UInt8) :
    String.utf8EncodeChar c ++ s < String.utf8EncodeChar d ++ t := by
  have hlt : c.val.toNat < d.val.toNat := h
  have hd : d.val.toNat < 0x110000 := by
    rcases d.valid with hlow | ⟨_, hhigh⟩
    · exact hlow.trans (by decide)
    · exact hhigh
  unfold String.utf8EncodeChar
  generalize c.val.toNat = m at hlt ⊢
  generalize d.val.toNat = n at hlt hd ⊢
  dsimp only
  -- The first bytes of forms of different lengths lie in ranges of their own. Forms of one length
  -- are compared byte by byte; were all bytes the same, the numbers would be.
  split_ifs
  all_goals simp only [List.cons_append, List.nil_append]
  all_goals
    repeat refine cons_ofNat_lt_cons (by omega) (by omega) fun _ => ?_
  all_goals omega

theorem bytes_lt_of_lt {s t : Text} (h : s < t) : s.bytes < t.bytes := by
  induction t generalizing s with
  | nil => cases h
  | cons d t ih =>
      rw [bytes_cons]
      cases s with
      | nil =>
          have hne : String.utf8EncodeChar d ≠ [] := String.utf8EncodeChar_ne_nil
          obtain ⟨byte, rest, hd⟩ := List.exists_cons_of_ne_nil hne
          rw [hd, bytes_nil]
          exact List.nil_lt_cons _ _
      | cons c s =>
          rw [bytes_cons]
          rcases List.cons_lt_cons_iff.1 h with hlt | ⟨rfl, hlt⟩
          · exact utf8EncodeChar_append_lt hlt _ _
          · exact List.append_left_lt (ih hlt)

/-- Comparing texts character by character is comparing their bytes. -/
theorem bytes_lt_bytes_iff {s t : Text} : s.bytes < t.bytes ↔ s < t := by
  constructor
  · intro h
    rcases lt_trichotomy s t with hlt | rfl | hgt
    · exact hlt
    · exact absurd h (List.lt_irrefl _)
    · exact absurd h (List.lt_asymm (bytes_lt_of_lt hgt))
  · exact bytes_lt_of_lt

end SpatialQuery.Text
