import Mathlib
import SpatialQuery.Text.Blank

/-!
# Blanks around a text and separators inside it

Trimming takes blanks off the two ends of a text and nothing else. The fields of a text are told
by a relation of their own: `Spaced` builds a text from pieces with separators around them, and
`fields_eq_iff` says that the fields are the only pieces a text can be built from.
-/

namespace SpatialQuery.Text

/-- A text that neither begins nor ends with a blank. -/
structure IsTrimmed (t : Text) : Prop where
  head : ∀ c ∈ t.head?, isBlank c = false
  last : ∀ c ∈ t.getLast?, isBlank c = false

theorem IsTrimmed.of_forall {t : Text} (h : ∀ c ∈ t, isBlank c = false) : t.IsTrimmed := by
  constructor
  · intro c hc
    exact h c (List.mem_of_mem_head? hc)
  · intro c hc
    exact h c (List.mem_of_mem_getLast? hc)

theorem trimStart_eq_self {t : Text} (h : ∀ c ∈ t.head?, isBlank c = false) :
    t.trimStart isBlank = t := by
  cases t with
  | nil => rfl
  | cons c rest => exact List.dropWhile_cons_of_neg (by rw [h c rfl]; decide)

theorem trimEnd_eq_self {t : Text} (h : ∀ c ∈ t.getLast?, isBlank c = false) :
    t.trimEnd isBlank = t := by
  apply List.rdropWhile_eq_self_iff.2
  intro hne
  rw [h _ (List.getLast_mem_getLast? hne)]
  decide

theorem trim_eq_self {t : Text} (h : t.IsTrimmed) : t.trim = t := by
  unfold trim
  rw [trimStart_eq_self h.head, trimEnd_eq_self h.last]

/-- Nothing but blanks is lost at the two ends. -/
theorem exists_eq_trim (t : Text) :
    ∃ before after, t = before ++ t.trim ++ after ∧
      (∀ c ∈ before, isBlank c = true) ∧ ∀ c ∈ after, isBlank c = true := by
  refine ⟨t.takeWhile isBlank, (t.dropWhile isBlank).rtakeWhile isBlank, ?_, ?_, ?_⟩
  · calc
      t = t.takeWhile isBlank ++ t.dropWhile isBlank := List.takeWhile_append_dropWhile.symm
      _ = t.takeWhile isBlank ++
          ((t.dropWhile isBlank).rdropWhile isBlank ++ (t.dropWhile isBlank).rtakeWhile isBlank) :=
        by rw [List.rdropWhile_append_rtakeWhile]
      _ = t.takeWhile isBlank ++ t.trim ++ (t.dropWhile isBlank).rtakeWhile isBlank :=
        (List.append_assoc _ _ _).symm
  · intro c hc
    exact List.mem_takeWhile_imp hc
  · intro c hc
    exact List.mem_rtakeWhile_imp hc

theorem trim_subset (t : Text) : t.trim ⊆ t := by
  obtain ⟨before, after, ht, _⟩ := exists_eq_trim t
  intro c hc
  rw [ht]
  simp [hc]

theorem trim_eq_nil_iff {t : Text} : t.trim = [] ↔ t.isAllBlank = true := by
  constructor
  · intro h
    obtain ⟨before, after, ht, hbefore, hafter⟩ := exists_eq_trim t
    rw [h, List.append_nil] at ht
    apply List.all_eq_true.2
    intro c hc
    rw [ht] at hc
    rcases List.mem_append.1 hc with hc | hc
    · exact hbefore c hc
    · exact hafter c hc
  · intro h
    have hstart : t.trimStart isBlank = [] := List.dropWhile_eq_nil_iff.2 (List.all_eq_true.1 h)
    unfold trim
    rw [hstart]
    rfl

theorem trimEnd_append {after : Text} (h : ∀ c ∈ after, isBlank c = true) (t : Text) :
    trimEnd isBlank (t ++ after) = trimEnd isBlank t := by
  unfold trimEnd
  rw [List.reverse_append, List.dropWhile_append_of_pos (by simpa using h)]

/-- Blanks at the two ends of a text do not matter to what is left of it. -/
theorem trim_pad {before after : Text} (hbefore : ∀ c ∈ before, isBlank c = true)
    (hafter : ∀ c ∈ after, isBlank c = true) (t : Text) :
    trim (before ++ t ++ after) = trim t := by
  unfold trim trimStart
  rw [List.append_assoc, List.dropWhile_append_of_pos hbefore, List.dropWhile_append]
  split
  · next hempty =>
      rw [List.isEmpty_iff.1 hempty, List.dropWhile_eq_nil_iff.2 hafter]
  · exact trimEnd_append hafter _

/-- A text put together from pieces holds nothing but the pieces and what stands between them. -/
theorem not_mem_intercalate {separator : Text} {c : Char} {pieces : List Text} (h : c ∉ separator)
    (hpieces : ∀ piece ∈ pieces, c ∉ piece) : c ∉ separator.intercalate pieces := by
  induction pieces with
  | nil => exact List.not_mem_nil
  | cons piece pieces ih =>
      obtain ⟨hpiece, hrest⟩ := List.forall_mem_cons.1 hpieces
      cases pieces with
      | nil =>
          rw [List.intercalate_singleton]
          exact hpiece
      | cons next pieces =>
          rw [List.intercalate_cons_cons]
          exact List.not_mem_append (List.not_mem_append hpiece h) (ih hrest)

section Fields

variable {separates : Char → Bool}

/-- A text is empty or begins with a separator. -/
def StartsApart (separates : Char → Bool) (t : Text) : Prop := ∀ c ∈ t.head?, separates c = true

theorem startsApart_nil : StartsApart separates [] := by
  intro c hc
  cases hc

theorem startsApart_cons {c : Char} (hc : separates c = true) (t : Text) :
    StartsApart separates (c :: t) := by
  intro d hd
  obtain rfl := Option.some.inj hd
  exact hc

/-- A text is built from pieces without separators, with separators around them and at least one
between neighbours. -/
inductive Spaced (separates : Char → Bool) : Text → List Text → Prop
  | gap {t} (h : ∀ c ∈ t, separates c = true) : Spaced separates t []
  | piece {before piece rest pieces} (hbefore : ∀ c ∈ before, separates c = true)
      (hne : piece ≠ []) (hpiece : ∀ c ∈ piece, separates c = false)
      (hrest : StartsApart separates rest) (tail : Spaced separates rest pieces) :
      Spaced separates (before ++ piece ++ rest) (piece :: pieces)

theorem fields_nil : fields separates [] = [] := rfl

theorem fields_cons_of_separates {c : Char} (hc : separates c = true) (t : Text) :
    fields separates (c :: t) = fields separates t := fields_append_cons hc [] t

theorem fields_append_of_startsApart (s : Text) {t : Text} (ht : StartsApart separates t) :
    fields separates (s ++ t) = fields separates s ++ fields separates t := by
  cases t with
  | nil => rw [List.append_nil, fields_nil, List.append_nil]
  | cons c t =>
      have hc : separates c = true := ht c rfl
      rw [fields_append_cons hc, fields_cons_of_separates hc]

theorem fields_of_forall {t : Text} (h : ∀ c ∈ t, separates c = true) :
    fields separates t = [] := by
  induction t with
  | nil => rfl
  | cons c t ih =>
      rw [fields_cons_of_separates (h c List.mem_cons_self)]
      exact ih fun d hd => h d (List.mem_cons_of_mem _ hd)

theorem fields_append_of_forall {before : Text} (h : ∀ c ∈ before, separates c = true)
    (t : Text) : fields separates (before ++ t) = fields separates t := by
  induction before with
  | nil => rfl
  | cons c before ih =>
      rw [List.cons_append, fields_cons_of_separates (h c List.mem_cons_self)]
      exact ih fun d hd => h d (List.mem_cons_of_mem _ hd)

theorem fields_of_piece {piece : Text} (hne : piece ≠ [])
    (h : ∀ c ∈ piece, separates c = false) : fields separates piece = [piece] := by
  unfold fields
  rw [List.splitOnP_eq_singleton h, List.filter_cons_of_pos (by simpa using hne)]
  rfl

theorem fields_piece_append {piece rest : Text} (hne : piece ≠ [])
    (h : ∀ c ∈ piece, separates c = false) (hrest : StartsApart separates rest) :
    fields separates (piece ++ rest) = piece :: fields separates rest := by
  rw [fields_append_of_startsApart _ hrest, fields_of_piece hne h]
  rfl

/-- Pieces with one separator between neighbours are the fields of the text they make up. -/
theorem fields_intercalate {separator : Char} (hseparator : separates separator = true)
    {pieces : List Text} (h : ∀ piece ∈ pieces, piece ≠ [] ∧ ∀ c ∈ piece, separates c = false) :
    fields separates ([separator].intercalate pieces) = pieces := by
  induction pieces with
  | nil => rfl
  | cons piece pieces ih =>
      obtain ⟨⟨hne, hpiece⟩, hrest⟩ := List.forall_mem_cons.1 h
      cases pieces with
      | nil =>
          rw [List.intercalate_singleton]
          exact fields_of_piece hne hpiece
      | cons next pieces =>
          rw [List.intercalate_cons_cons, List.append_assoc, List.singleton_append,
            fields_piece_append hne hpiece (startsApart_cons hseparator _),
            fields_cons_of_separates hseparator, ih hrest]

theorem fields_eq_of_spaced {t : Text} {pieces : List Text} (h : Spaced separates t pieces) :
    fields separates t = pieces := by
  induction h with
  | gap h => exact fields_of_forall h
  | piece hbefore hne hpiece hrest _ ih =>
      rw [List.append_assoc, fields_append_of_forall hbefore,
        fields_piece_append hne hpiece hrest, ih]

theorem subset_of_spaced {t : Text} {pieces : List Text} (h : Spaced separates t pieces) :
    ∀ piece ∈ pieces, piece ⊆ t := by
  induction h with
  | gap _ =>
      intro piece hpiece
      cases hpiece
  | piece _ _ _ _ _ ih =>
      intro other hother
      rcases List.mem_cons.1 hother with rfl | hother
      · exact List.subset_append_of_subset_left _ (List.subset_append_right _ _)
      · exact List.subset_append_of_subset_right _ (ih other hother)

theorem of_mem_spaced {t : Text} {pieces : List Text} (h : Spaced separates t pieces) :
    ∀ piece ∈ pieces, piece ≠ [] ∧ ∀ c ∈ piece, separates c = false := by
  induction h with
  | gap _ =>
      intro piece hpiece
      cases hpiece
  | piece _ hne hpiece _ _ ih => exact List.forall_mem_cons.2 ⟨⟨hne, hpiece⟩, ih⟩

/-- The first piece of a text is found by skipping separators and taking what is none. -/
theorem spaced_fields (t : Text) : Spaced separates t (fields separates t) := by
  induction hn : t.length using Nat.strongRecOn generalizing t with
  | ind n ih =>
      have hbefore : ∀ c ∈ t.takeWhile separates, separates c = true := fun c hc =>
        List.mem_takeWhile_imp hc
      cases hd : t.dropWhile separates with
      | nil =>
          have hall : ∀ c ∈ t, separates c = true := List.dropWhile_eq_nil_iff.1 hd
          rw [fields_of_forall hall]
          exact .gap hall
      | cons c rest =>
          have hc : separates c = false := by
            have := List.head?_dropWhile_not separates t
            simpa [hd] using this
          let free : Char → Bool := fun d => !separates d
          have hpiece : ∀ d ∈ c :: rest.takeWhile free, separates d = false := by
            intro d hd
            rcases List.mem_cons.1 hd with rfl | hd
            · exact hc
            · simpa [free] using List.mem_takeWhile_imp hd
          have hrest : StartsApart separates (rest.dropWhile free) := by
            intro d hd
            have := List.head?_dropWhile_not free rest
            rw [hd] at this
            simpa [free] using this
          have hsplit : t =
              t.takeWhile separates ++ (c :: rest.takeWhile free) ++ rest.dropWhile free := by
            calc
              t = t.takeWhile separates ++ t.dropWhile separates :=
                List.takeWhile_append_dropWhile.symm
              _ = _ := by
                rw [hd, List.append_assoc, List.cons_append, List.takeWhile_append_dropWhile]
          have hlen : (rest.dropWhile free).length < n := by
            have h₁ := congrArg List.length hsplit
            simp only [List.length_append, List.length_cons] at h₁
            omega
          have hspaced := Spaced.piece hbefore (List.cons_ne_nil _ _) hpiece hrest
            (ih _ hlen _ rfl)
          rw [← hsplit] at hspaced
          rwa [fields_eq_of_spaced hspaced]

theorem fields_eq_iff {t : Text} {pieces : List Text} :
    fields separates t = pieces ↔ Spaced separates t pieces := by
  constructor
  · rintro rfl
    exact spaced_fields t
  · exact fields_eq_of_spaced

/-- Trimming does not change the fields of a text whose blanks are all separators. -/
theorem fields_trim {t : Text} (h : ∀ c ∈ t, isBlank c = true → separates c = true) :
    fields separates t.trim = fields separates t := by
  obtain ⟨before, after, ht, hbefore, hafter⟩ := exists_eq_trim t
  have hb : ∀ c ∈ before, separates c = true := by
    intro c hc
    apply h c _ (hbefore c hc)
    rw [ht]
    simp [hc]
  have ha : ∀ c ∈ after, separates c = true := by
    intro c hc
    apply h c _ (hafter c hc)
    rw [ht]
    simp [hc]
  have hapart : StartsApart separates after := fun c hc => ha c (List.mem_of_mem_head? hc)
  calc
    fields separates t.trim = fields separates (before ++ t.trim ++ after) := by
      rw [fields_append_of_startsApart _ hapart, fields_append_of_forall hb, fields_of_forall ha,
        List.append_nil]
    _ = fields separates t := by rw [← ht]

end Fields

end SpatialQuery.Text
