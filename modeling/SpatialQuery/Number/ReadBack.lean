import SpatialQuery.Number.Shortest

/-!
# Texts of numbers are read back

The text of a number is a literal of that very number, the sign of a zero and `nan` included. So
two numbers have the same text exactly when they are the same.

## Implementation notes

The digits that are chosen are tried with the rounding of the reader itself, so what is left to
see is that all digits of a number are rounded to it, and that a positional form is read as the
digits it was made of.
-/

namespace SpatialQuery

/-- The nearest magnitude of a number with places after its point. -/
theorem Decimal.rank_places (c n : Nat) :
    (⟨c, -((n + 1 : Nat) : Int)⟩ : Decimal).rank =
      if c.log2 + 1100 < 3 * (n + 1) then 0
      else rankOfRatio (c * unitsPerOne) (10 ^ (n + 1)) := rfl

namespace Binary64

/-- Only the rank zero has the magnitude zero. -/
theorem eq_zero_of_units_eq_zero {rank : Nat} (h : units rank = 0) : rank = 0 := by
  rcases Nat.eq_zero_or_pos rank with h0 | h0
  · exact h0
  · have := units_lt_units h0
    omega

/-- The power of five that all digits of a magnitude hold is beyond the bound below which decimal
numbers are taken for nothing. -/
theorem two_pow_le_five_pow : 2 ^ 2400 ≤ 5 ^ unitPlaces := by decide +kernel

/-- A number from a power of two on has at least that logarithm. -/
theorem le_log2_of_two_pow_le {k n : Nat} (h : 2 ^ k ≤ n) : k ≤ n.log2 :=
  (Nat.le_log2 (Nat.ne_of_gt (Nat.lt_of_lt_of_le (Nat.two_pow_pos k) h))).2 h

/-- A power of five and a power of two make a power of ten. -/
theorem mul_five_pow_mul_two_pow (u n : Nat) : u * 5 ^ n * 2 ^ n = u * 10 ^ n := by
  rw [Nat.mul_assoc, ← Nat.mul_pow]

/-- All digits of a magnitude are rounded to it. -/
theorem rank_allDigits (rank : Nat) : (allDigits (units rank)).toDecimal.rank = rank := by
  have hplaces : unitPlaces = 1073 + 1 := rfl
  have hrank := Decimal.rank_places (units rank * 5 ^ unitPlaces) 1073
  rw [← hplaces] at hrank
  refine hrank.trans ?_
  by_cases h0 : units rank = 0
  · rw [h0, Nat.zero_mul, if_pos (by decide)]
    exact (eq_zero_of_units_eq_zero h0).symm
  · have hlog : 2400 ≤ (units rank * 5 ^ unitPlaces).log2 :=
      le_log2_of_two_pow_le
        (Nat.le_trans two_pow_le_five_pow (Nat.le_mul_of_pos_left _ (Nat.pos_of_ne_zero h0)))
    rw [if_neg (by omega), unitsPerOne, mul_five_pow_mul_two_pow]
    exact rankOfRatio_units rank (Nat.pow_pos (by decide))

/-- The digits that are chosen for a rank are rounded to it. -/
theorem rank_shortest (rank : Nat) : (shortest rank).toDecimal.rank = rank := by
  unfold shortest
  simp only []
  cases h : (List.range 17).findSome? fun (further : Nat) =>
    (neighbours (units rank) (leadingExponent (units rank) - further)).find? (readsBack rank) with
  | none => exact rank_allDigits rank
  | some x =>
    obtain ⟨further, _, hf⟩ := List.exists_of_findSome?_eq_some h
    have hx := List.find?_some hf
    exact beq_iff_eq.1 hx

end Binary64

namespace Literal

/-- The digit of a value below ten has that value. -/
theorem digit?_digitChar {d : Nat} (h : d < 10) : digit? d.digitChar = some d := by
  have hd : d.digitChar.isDigit = true := by simpa [Nat.isDigit_digitChar] using h
  have hv : d.digitChar.toNat - '0'.toNat = d := Nat.toNat_digitChar_sub_48_of_lt_ten h
  rw [digit?, if_pos hd, hv]

/-- Digits are appended one part after another. -/
theorem appendDigits?_append (n : Nat) (s t : Text) :
    appendDigits? n (s ++ t) = (appendDigits? n s).bind fun m => appendDigits? m t := by
  induction s generalizing n with
  | nil => rfl
  | cons c s ih =>
    simp only [List.cons_append, appendDigits?]
    cases digit? c with
    | none => rfl
    | some d => exact ih _

/-- The digits of a number are appended by shifting and adding. -/
theorem appendDigits?_ofNat (m n : Nat) :
    appendDigits? m (Text.ofNat n) = some (m * 10 ^ (Text.ofNat n).length + n) := by
  unfold Text.ofNat
  induction n using Nat.strongRecOn generalizing m with
  | ind n ih =>
    rw [Nat.toDigits_eq_if (by decide)]
    split
    · rename_i h
      simp only [appendDigits?, digit?_digitChar h, List.length_singleton, Nat.pow_one]
      rw [Nat.mul_comm]
    · rename_i h
      rw [appendDigits?_append, ih (n / 10) (by omega)]
      simp only [Option.bind_some, appendDigits?, digit?_digitChar (Nat.mod_lt n (by decide)),
        List.length_append, List.length_singleton, Nat.pow_succ]
      have := Nat.div_add_mod n 10
      rw [Nat.mul_add, Nat.mul_left_comm, Nat.add_assoc, this, Nat.mul_comm 10]

/-- Zeros are appended by shifting. -/
theorem appendDigits?_zeros (m n : Nat) :
    appendDigits? m (List.replicate n '0') = some (m * 10 ^ n) := by
  induction n generalizing m with
  | zero => rw [Nat.pow_zero, Nat.mul_one]; rfl
  | succ n ih =>
    have : digit? '0' = some 0 := rfl
    simp only [List.replicate_succ, appendDigits?, this, ih]
    rw [Nat.pow_succ, Nat.add_zero, Nat.mul_comm 10 m, Nat.mul_assoc, Nat.mul_comm 10]

/-- Digits with zeros in front are appended by shifting the whole width. -/
theorem appendDigits?_padded (m : Nat) {width n : Nat} (hw : 0 < width) (hn : n < 10 ^ width) :
    appendDigits? m (FixedPoint.padded width (Text.ofNat n)) = some (m * 10 ^ width + n) := by
  have hl : (Text.ofNat n).length ≤ width := (Nat.length_toDigits_le_iff (by decide) hw).2 hn
  rw [FixedPoint.padded, appendDigits?_append, appendDigits?_zeros]
  simp only [Option.bind_some]
  rw [appendDigits?_ofNat, Nat.mul_assoc, ← Nat.pow_add, Nat.sub_add_cancel hl]

/-- The digits of a number are digits. -/
theorem isDigit_of_mem_ofNat {n : Nat} {c : Char} (h : c ∈ Text.ofNat n) : c.isDigit = true :=
  Nat.isDigit_of_mem_toDigits (by decide) (by decide) h

/-- A number has at least one digit. -/
theorem ofNat_ne_nil (n : Nat) : Text.ofNat n ≠ [] := Nat.toDigits_ne_nil

/-- Padding with zeros gives the width that is asked for. -/
theorem length_padded {width n : Nat} (hw : 0 < width) (hn : n < 10 ^ width) :
    (FixedPoint.padded width (Text.ofNat n)).length = width := by
  have hl : (Text.ofNat n).length ≤ width := (Nat.length_toDigits_le_iff (by decide) hw).2 hn
  rw [FixedPoint.padded, List.length_append, List.length_replicate, Nat.sub_add_cancel hl]

/-- A positional form is made of digits and points, and begins with a digit. -/
theorem positional_eq_cons (x : FixedPoint) :
    ∃ c rest, x.positional = c :: rest ∧ c.isDigit = true ∧
      ∀ d ∈ x.positional, d.isDigit = true ∨ d = '.' := by
  obtain ⟨c, whole, hw⟩ := List.exists_cons_of_ne_nil (ofNat_ne_nil (x.digits / 10 ^ x.places))
  have hdigit : ∀ d ∈ Text.ofNat (x.digits / 10 ^ x.places), d.isDigit = true := fun d hd =>
    isDigit_of_mem_ofNat hd
  have hc : c.isDigit = true := hdigit c (hw ▸ List.mem_cons_self)
  unfold FixedPoint.positional
  simp only []
  split
  · exact ⟨c, whole, hw, hc, fun d hd => .inl (hdigit d hd)⟩
  · refine ⟨c, whole ++ '.' :: FixedPoint.padded x.places
      (Text.ofNat (x.digits % 10 ^ x.places)), by rw [hw]; rfl, hc, fun d hd => ?_⟩
    rcases List.mem_append.1 hd with hd | hd
    · exact .inl (hdigit d hd)
    · rcases List.mem_cons.1 hd with rfl | hd
      · exact .inr rfl
      · rcases List.mem_append.1 hd with hd | hd
        · exact .inl ((List.eq_of_mem_replicate hd) ▸ rfl)
        · exact .inl (isDigit_of_mem_ofNat hd)

/-- A positional form is read as the digits and places it was made of. -/
theorem significand?_positional (x : FixedPoint) : significand? x.positional = some x := by
  have hpoint : '.' ∉ Text.ofNat (x.digits / 10 ^ x.places) := fun h =>
    Bool.false_ne_true (isDigit_of_mem_ofNat h)
  unfold FixedPoint.positional significand?
  simp only []
  split
  · rename_i hp
    have hcut : Text.cutFirst '.' (Text.ofNat (x.digits / 10 ^ x.places)) = none := by
      cases h : Text.cutFirst '.' (Text.ofNat (x.digits / 10 ^ x.places)) with
      | none => rfl
      | some p =>
        have := (Text.cutFirst_eq_some_iff.1 h).1
        exact absurd (this ▸ List.mem_append_right _ List.mem_cons_self) hpoint
    rw [hcut]
    have hne : (Text.ofNat (x.digits / 10 ^ x.places)).isEmpty = false := by
      simpa using ofNat_ne_nil (x.digits / 10 ^ x.places)
    simp only [Option.getD_none, hne, Bool.false_and, Bool.false_eq_true, if_false,
      List.append_nil, appendDigits?_ofNat, Option.map_some, List.length_nil]
    obtain ⟨digits, places⟩ := x
    simp only at hp
    subst hp
    simp
  · rename_i hp
    have hpos : 0 < x.places := Nat.pos_of_ne_zero hp
    have hlt : x.digits % 10 ^ x.places < 10 ^ x.places :=
      Nat.mod_lt _ (Nat.pow_pos (by decide))
    have hcut : Text.cutFirst '.' (Text.ofNat (x.digits / 10 ^ x.places) ++ '.' ::
        FixedPoint.padded x.places (Text.ofNat (x.digits % 10 ^ x.places))) =
        some (Text.ofNat (x.digits / 10 ^ x.places),
          FixedPoint.padded x.places (Text.ofNat (x.digits % 10 ^ x.places))) :=
      Text.cutFirst_eq_some_iff.2 ⟨rfl, hpoint⟩
    rw [hcut]
    have hne : (Text.ofNat (x.digits / 10 ^ x.places)).isEmpty = false := by
      simpa using ofNat_ne_nil (x.digits / 10 ^ x.places)
    simp only [Option.getD_some, hne, Bool.false_and, Bool.false_eq_true, if_false,
      appendDigits?_append, appendDigits?_ofNat, Option.bind_some,
      appendDigits?_padded _ hpos hlt, Option.map_some, length_padded hpos hlt, Nat.zero_mul,
      Nat.zero_add]
    rw [Nat.mul_comm, Nat.div_add_mod]

/-- Nothing is left of a text after all of its characters were taken. -/
theorem dropWhile_eq_nil {p : Char → Bool} {t : Text} (h : ∀ c ∈ t, p c = true) :
    t.dropWhile p = [] := by
  induction t with
  | nil => rfl
  | cons c t ih =>
    rw [List.dropWhile_cons, if_pos (h c List.mem_cons_self)]
    exact ih fun d hd => h d (List.mem_cons_of_mem _ hd)

/-- A positional form is read as the decimal number it writes. -/
theorem decimal?_positional (x : FixedPoint) : decimal? x.positional = some x.toDecimal := by
  obtain ⟨_, _, _, _, hall⟩ := positional_eq_cons x
  have hmark : ∀ d ∈ x.positional, (!isExponentMark d) = true := by
    intro d hd
    rcases hall d hd with h | rfl
    · have he : d ≠ 'e' := by rintro rfl; exact Bool.false_ne_true h
      have hE : d ≠ 'E' := by rintro rfl; exact Bool.false_ne_true h
      simp [isExponentMark, he, hE]
    · rfl
  have hdrop : x.positional.dropWhile (!isExponentMark ·) = [] := dropWhile_eq_nil hmark
  have htake : x.positional.takeWhile (!isExponentMark ·) = x.positional := by
    have := @List.takeWhile_append_dropWhile _ (!isExponentMark ·) x.positional
    rwa [hdrop, List.append_nil] at this
  unfold decimal?
  rw [htake, hdrop, significand?_positional]
  rfl

/-- A text that begins with a digit has no sign. -/
theorem signed_of_isDigit {c : Char} (rest : Text) (h : c.isDigit = true) :
    signed (c :: rest) = (false, c :: rest) := by
  unfold signed
  split
  · rename_i heq
    cases heq
    exact absurd h (by decide)
  · rename_i heq
    cases heq
    exact absurd h (by decide)
  · rfl

end Literal

namespace Binary64

/-- A rank is the rank of the number that is made of it. -/
theorem ofRank_val (negative : Bool) (rank : Fin magnitudeCount) :
    ofRank negative rank = finite negative rank := by
  unfold ofRank
  rw [dif_pos rank.isLt]

/-- A sign and a decimal number that begins with a digit are read together. -/
theorem read_signText_append {c : Char} {rest : Text} {d : Decimal} (negative : Bool)
    (hc : c.isDigit = true) (hd : Literal.decimal? (c :: rest) = some d) :
    read (signText negative ++ c :: rest) = .ok (ofRank negative d.rank) := by
  have hs : Literal.signed (signText negative ++ c :: rest) = (negative, c :: rest) := by
    cases negative with
    | true => rfl
    | false => exact Literal.signed_of_isDigit rest hc
  have hne : (signText negative ++ c :: rest).isEmpty = false := by cases negative <;> rfl
  unfold read
  rw [hne, hs]
  simp only [Bool.false_eq_true, if_false, hd]

/-- The text of a number is read as that number. -/
theorem read_text (x : Binary64) : read x.text = .ok x := by
  cases x with
  | nan => rfl
  | infinite negative => cases negative <;> rfl
  | finite negative rank =>
    obtain ⟨c, rest, hc, hdigit, _⟩ := Literal.positional_eq_cons (shortest rank)
    have hd := Literal.decimal?_positional (shortest rank)
    show read (signText negative ++ (shortest rank).positional) = _
    rw [hc] at hd ⊢
    rw [read_signText_append negative hdigit hd, rank_shortest, ofRank_val]

/-- Two numbers with the same text are the same. -/
theorem text_inj {x y : Binary64} (h : x.text = y.text) : x = y :=
  Except.ok.inj ((read_text x).symm.trans (h ▸ read_text y))

end Binary64

end SpatialQuery
