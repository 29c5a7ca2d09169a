import Mathlib
import SpatialQuery.Text.Basic

/-!
# Offsets into the bytes of a text

A text can also be cut where a number of bytes of its UTF-8 form have passed. Such a cut is
partial: `slice?` has an answer only for offsets in their order, inside the text, and on boundaries
of its characters. `slice?_eq_some_iff` says when there is one, by the characters of the text.
-/

namespace SpatialQuery.Text

/-- The UTF-8 form of a text. -/
def utf8 (t : Text) : ByteArray := (String.ofList t).toByteArray

/-- An offset is a boundary if the bytes end there or a character begins there. -/
def IsBoundary (bytes : ByteArray) (offset : Nat) : Prop :=
  offset = bytes.size ∨ ∃ h : offset < bytes.size, bytes[offset].IsUTF8FirstByte

instance (bytes : ByteArray) (offset : Nat) : Decidable (IsBoundary bytes offset) :=
  inferInstanceAs (Decidable (_ ∨ _))

/-- The part of a text between two offsets. There is none if the offsets are not in their order,
outside the text or inside a character. -/
def slice? (t : Text) (start stop : Nat) : Option Text :=
  if start ≤ stop ∧ stop ≤ t.utf8.size ∧ IsBoundary t.utf8 start ∧ IsBoundary t.utf8 stop then
    (t.utf8.extract start stop).utf8Decode?.map Array.toList
  else none

/-- The parts of a text before and after an offset. -/
def splitAt? (t : Text) (offset : Nat) : Option (Text × Text) := do
  let before ← t.slice? 0 offset
  let after ← t.slice? offset t.utf8.size
  return (before, after)

/-- The offset of the first `mark`. -/
def offset? (mark : Char) : Text → Option Nat
  | [] => none
  | c :: t => if c = mark then some 0 else (offset? mark t).map (c.utf8Size + ·)

/-- The offset of the last `mark`. -/
def lastOffset? (mark : Char) : Text → Option Nat
  | [] => none
  | c :: t =>
    match lastOffset? mark t with
    | some offset => some (c.utf8Size + offset)
    | none => if c = mark then some 0 else none

/-- The number of bytes of the characters with a property that a text begins with. -/
def prefixLength (p : Char → Bool) (t : Text) : Nat := byteLength (t.takeWhile p)

section Bytes

theorem utf8_append (s t : Text) : utf8 (s ++ t) = utf8 s ++ utf8 t := by
  unfold utf8
  rw [String.ofList_append, String.toByteArray_append]

@[simp]
theorem byteLength_cons (c : Char) (t : Text) : byteLength (c :: t) = c.utf8Size + t.byteLength :=
  rfl

@[simp]
theorem byteLength_append (s t : Text) : byteLength (s ++ t) = s.byteLength + t.byteLength := by
  induction s with
  | nil => exact (Nat.zero_add _).symm
  | cons c s ih => rw [List.cons_append, byteLength_cons, byteLength_cons, ih, Nat.add_assoc]

theorem byteLength_eq_zero_iff {t : Text} : t.byteLength = 0 ↔ t = [] := by
  cases t with
  | nil => exact iff_of_true rfl rfl
  | cons c t =>
      have hpos := c.utf8Size_pos
      rw [byteLength_cons]
      exact iff_of_false (by omega) (List.cons_ne_nil _ _)

theorem size_utf8 (t : Text) : t.utf8.size = t.byteLength := by
  induction t with
  | nil => rfl
  | cons c t ih =>
      have hcons : utf8 (c :: t) = utf8 [c] ++ utf8 t := utf8_append [c] t
      rw [hcons, ByteArray.size_append, ih, byteLength_cons]
      simp [utf8, List.utf8Encode_singleton]

theorem utf8Decode?_utf8 (t : Text) : t.utf8.utf8Decode? = some t.toArray := by
  unfold utf8
  rw [String.toByteArray_ofList, List.utf8Decode?_utf8Encode]

/-- The boundaries of a text are the places between its characters and at its two ends. -/
theorem isBoundary_iff {t : Text} {offset : Nat} :
    IsBoundary t.utf8 offset ↔ ∃ before after, t = before ++ after ∧
      offset = before.byteLength := by
  have hlength : ∀ u : Text, (String.ofList u).utf8ByteSize = u.byteLength := size_utf8
  have hvalid : IsBoundary t.utf8 offset ↔
      (String.Pos.Raw.mk offset).IsValid (String.ofList t) := by
    rw [String.Pos.Raw.isValid_iff_isUTF8FirstByte, String.Pos.Raw.ext_iff]
    exact Iff.rfl
  rw [hvalid, String.Pos.Raw.isValid_ofList]
  constructor
  · rintro ⟨i, hi⟩
    exact ⟨t.take i, t.drop i, (List.take_append_drop i t).symm, hi.trans (hlength _)⟩
  · rintro ⟨before, after, rfl, rfl⟩
    refine ⟨before.length, ?_⟩
    rw [List.take_left, hlength]

theorem extract_utf8 (before t after : Text) :
    (utf8 (before ++ t ++ after)).extract before.byteLength (before.byteLength + t.byteLength) =
      t.utf8 := by
  rw [List.append_assoc, utf8_append, utf8_append, ← size_utf8 before, ← size_utf8 t]
  have hskip := @ByteArray.extract_append_size_add before.utf8 (t.utf8 ++ after.utf8) 0 t.utf8.size
  rw [Nat.add_zero] at hskip
  rw [hskip, ByteArray.extract_append_eq_left rfl]

end Bytes

section Slices

variable {t u : Text} {start stop : Nat}

/-- What stands in a text is the slice between its offsets. -/
theorem slice?_append (before t after : Text) :
    slice? (before ++ t ++ after) before.byteLength (before.byteLength + t.byteLength) =
      some t := by
  have hstart : IsBoundary (utf8 (before ++ t ++ after)) before.byteLength :=
    isBoundary_iff.2 ⟨before, t ++ after, List.append_assoc _ _ _, rfl⟩
  have hstop : IsBoundary (utf8 (before ++ t ++ after)) (before.byteLength + t.byteLength) :=
    isBoundary_iff.2 ⟨before ++ t, after, rfl, (byteLength_append _ _).symm⟩
  have hsize : before.byteLength + t.byteLength ≤ (utf8 (before ++ t ++ after)).size := by
    rw [size_utf8, byteLength_append, byteLength_append]
    exact Nat.le_add_right _ _
  unfold slice?
  rw [if_pos ⟨Nat.le_add_right _ _, hsize, hstart, hstop⟩, extract_utf8, utf8Decode?_utf8]
  rfl

/-- Between two boundaries in their order there is always something to cut out. -/
theorem exists_of_isBoundary (hle : start ≤ stop) (hstart : IsBoundary t.utf8 start)
    (hstop : IsBoundary t.utf8 stop) :
    ∃ before u after, t = before ++ u ++ after ∧ start = before.byteLength ∧
      stop = before.byteLength + u.byteLength := by
  obtain ⟨before, rest, ht, rfl⟩ := isBoundary_iff.1 hstart
  obtain ⟨upTo, after, ht', rfl⟩ := isBoundary_iff.1 hstop
  rcases List.append_eq_append_iff.1 (ht.symm.trans ht') with ⟨u, rfl, rfl⟩ | ⟨u, rfl, rfl⟩
  · exact ⟨before, u, after, by simp [ht], rfl, byteLength_append before u⟩
  · rw [byteLength_append] at hle
    obtain rfl : u = [] := byteLength_eq_zero_iff.1 (by omega)
    exact ⟨upTo, [], rest, by simp [ht], by simp, rfl⟩

theorem isSome_slice?_iff :
    (t.slice? start stop).isSome = true ↔
      start ≤ stop ∧ stop ≤ t.utf8.size ∧ IsBoundary t.utf8 start ∧ IsBoundary t.utf8 stop := by
  constructor
  · intro h
    unfold slice? at h
    split at h
    · next hbounds => exact hbounds
    · cases h
  · rintro ⟨hle, _, hstart, hstop⟩
    obtain ⟨before, u, after, rfl, rfl, rfl⟩ := exists_of_isBoundary hle hstart hstop
    rw [slice?_append]
    rfl

/-- A slice is what stands between two offsets. -/
theorem slice?_eq_some_iff :
    t.slice? start stop = some u ↔
      ∃ before after, t = before ++ u ++ after ∧ start = before.byteLength ∧
        stop = before.byteLength + u.byteLength := by
  constructor
  · intro h
    obtain ⟨hle, _, hstart, hstop⟩ := isSome_slice?_iff.1 (Option.isSome_of_eq_some h)
    obtain ⟨before, v, after, rfl, rfl, rfl⟩ := exists_of_isBoundary hle hstart hstop
    rw [slice?_append] at h
    obtain rfl := Option.some.inj h
    exact ⟨before, after, rfl, rfl, rfl⟩
  · rintro ⟨before, after, rfl, rfl, rfl⟩
    exact slice?_append before u after

-- The second byte of the first character is inside it.
example : slice? "é(".toList 1 2 = none := by decide

theorem slice?_left (t after : Text) : slice? (t ++ after) 0 t.byteLength = some t :=
  slice?_eq_some_iff.2 ⟨[], after, rfl, rfl, (Nat.zero_add _).symm⟩

/-- What stands behind a mark of one byte is the slice from the next offset on. -/
theorem slice?_right {mark : Char} (hmark : mark.utf8Size = 1) (before t : Text) :
    slice? (before ++ mark :: t) (before.byteLength + 1) (utf8 (before ++ mark :: t)).size =
      some t := by
  apply slice?_eq_some_iff.2
  refine ⟨before ++ [mark], [], by simp, ?_, ?_⟩
  · rw [byteLength_append, byteLength_cons, hmark]
    rfl
  · rw [size_utf8, byteLength_append, byteLength_append, byteLength_cons, byteLength_cons]
    exact (Nat.add_assoc _ _ _).symm

theorem splitAt?_append (before after : Text) :
    splitAt? (before ++ after) before.byteLength = some (before, after) := by
  have hafter : slice? (before ++ after) before.byteLength (utf8 (before ++ after)).size =
      some after := by
    apply slice?_eq_some_iff.2
    refine ⟨before, [], by simp, rfl, ?_⟩
    rw [size_utf8, byteLength_append]
  unfold splitAt?
  rw [slice?_left, hafter]
  rfl

theorem splitAt?_prefixLength (p : Char → Bool) (t : Text) :
    t.splitAt? (t.prefixLength p) = some (t.takeWhile p, t.dropWhile p) := by
  have happend := splitAt?_append (t.takeWhile p) (t.dropWhile p)
  rwa [List.takeWhile_append_dropWhile] at happend

end Slices

section Marks

variable {mark : Char} {t : Text} {n : Nat}

theorem offset?_eq_some_iff :
    t.offset? mark = some n ↔
      ∃ before after, t = before ++ mark :: after ∧ mark ∉ before ∧ n = before.byteLength := by
  constructor
  · intro h
    induction t generalizing n with
    | nil => cases h
    | cons c t ih =>
        rw [offset?] at h
        split at h
        · next hc =>
            obtain rfl := Option.some.inj h
            exact ⟨[], t, by rw [hc]; rfl, List.not_mem_nil, rfl⟩
        · next hc =>
            obtain ⟨k, hk, rfl⟩ := Option.map_eq_some_iff.1 h
            obtain ⟨before, after, rfl, hbefore, rfl⟩ := ih hk
            exact ⟨c :: before, after, rfl,
              List.not_mem_cons_of_ne_of_not_mem (Ne.symm hc) hbefore, rfl⟩
  · rintro ⟨before, after, rfl, hbefore, rfl⟩
    induction before with
    | nil => exact if_pos rfl
    | cons c before ih =>
        obtain ⟨hc, hbefore⟩ := List.ne_and_not_mem_of_not_mem_cons hbefore
        rw [List.cons_append, offset?, if_neg (Ne.symm hc), ih hbefore]
        rfl

theorem lastOffset?_eq_none_iff : t.lastOffset? mark = none ↔ mark ∉ t := by
  induction t with
  | nil => exact iff_of_true rfl List.not_mem_nil
  | cons c t ih =>
      rw [lastOffset?]
      cases hlast : lastOffset? mark t with
      | some k =>
          have hmem : mark ∈ t := by
            by_contra hnot
            rw [ih.2 hnot] at hlast
            cases hlast
          exact iff_of_false (by simp) fun h => h (List.mem_cons_of_mem c hmem)
      | none =>
          have hnot := ih.1 hlast
          by_cases hc : c = mark
          · simp [hc]
          · simp [hc, hnot, Ne.symm hc]

theorem lastOffset?_eq_some_iff :
    t.lastOffset? mark = some n ↔
      ∃ before after, t = before ++ mark :: after ∧ mark ∉ after ∧ n = before.byteLength := by
  constructor
  · intro h
    induction t generalizing n with
    | nil => cases h
    | cons c t ih =>
        rw [lastOffset?] at h
        split at h
        · next k hk =>
            obtain rfl := Option.some.inj h
            obtain ⟨before, after, rfl, hafter, rfl⟩ := ih hk
            exact ⟨c :: before, after, rfl, hafter, rfl⟩
        · next hnone =>
            obtain ⟨rfl, hzero⟩ := Option.ite_none_right_eq_some.1 h
            obtain rfl := Option.some.inj hzero
            exact ⟨[], t, rfl, lastOffset?_eq_none_iff.1 hnone, rfl⟩
  · rintro ⟨before, after, rfl, hafter, rfl⟩
    induction before with
    | nil =>
        rw [List.nil_append, lastOffset?, lastOffset?_eq_none_iff.2 hafter]
        exact if_pos rfl
    | cons c before ih =>
        rw [List.cons_append, lastOffset?, ih]
        rfl

end Marks

end SpatialQuery.Text
