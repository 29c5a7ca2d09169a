import SpatialQuery.Number.Binary64

/-!
# Rounding a ratio to a magnitude

A non-negative ratio is rounded to the nearest magnitude, and a ratio halfway between two
neighbours goes to the one of even rank. Ratios are given in units of the smallest positive
magnitude, so that all of the work is done on natural numbers.
-/

namespace SpatialQuery

/-- The nearest whole number of a ratio; a half goes to the even neighbour. -/
def nearestEven (numerator denominator : Nat) : Nat :=
  let whole := numerator / denominator
  let twice := 2 * (numerator % denominator)
  if twice < denominator || (twice == denominator && whole % 2 == 0) then whole else whole + 1

/-- The rank of the magnitude nearest to a ratio of units. The shift drops the bits of the whole
part past the fifty-third; it is also the number of blocks of ranks below the answer, so a
significand that is rounded up to the next power of two falls on the first rank of the next
block. -/
def rankOfRatio (numerator denominator : Nat) : Nat :=
  let shift := (numerator / denominator).log2 - 52
  shift * 2 ^ 52 + nearestEven numerator (denominator * 2 ^ shift)

/-- A ratio that is whole is its own nearest whole number. -/
theorem nearestEven_mul_right (n : Nat) {denominator : Nat} (h : 0 < denominator) :
    nearestEven (n * denominator) denominator = n := by
  simp [nearestEven, Nat.mul_div_cancel _ h, h]

/-- The units of a rank are rounded to that rank, over any denominator. -/
theorem rankOfRatio_units (rank : Nat) {denominator : Nat} (h : 0 < denominator) :
    rankOfRatio (Binary64.units rank * denominator) denominator = rank := by
  unfold rankOfRatio
  rw [Nat.mul_div_cancel _ h]
  by_cases hr : rank < 2 ^ 52
  · have hu : Binary64.units rank = rank := if_pos hr
    have hs : rank.log2 - 52 = 0 := by
      by_cases h0 : rank = 0
      · simp [h0]
      · have := (Nat.log2_lt h0).2 hr
        omega
    simp only [hu, hs, Nat.pow_zero, Nat.mul_one, Nat.zero_mul, Nat.zero_add]
    exact nearestEven_mul_right _ h
  · obtain ⟨k, hk⟩ : ∃ k, rank / 2 ^ 52 = k + 1 := ⟨rank / 2 ^ 52 - 1, by omega⟩
    have hu : Binary64.units rank = (2 ^ 52 + rank % 2 ^ 52) * 2 ^ k := by
      unfold Binary64.units
      rw [if_neg hr, hk, Nat.add_sub_cancel]
    have hs : (Binary64.units rank).log2 - 52 = k := by
      have hm : rank % 2 ^ 52 < 2 ^ 52 := Nat.mod_lt _ (Nat.two_pow_pos _)
      have hne : (2 ^ 52 + rank % 2 ^ 52) * 2 ^ k ≠ 0 :=
        Nat.mul_ne_zero (by omega) (Nat.pos_iff_ne_zero.1 (Nat.two_pow_pos _))
      have hlow : 52 + k ≤ ((2 ^ 52 + rank % 2 ^ 52) * 2 ^ k).log2 := by
        rw [Nat.le_log2 hne, Nat.pow_add]
        exact Nat.mul_le_mul_right _ (by omega)
      have hhigh : ((2 ^ 52 + rank % 2 ^ 52) * 2 ^ k).log2 < 53 + k := by
        rw [Nat.log2_lt hne, Nat.pow_add]
        exact Nat.mul_lt_mul_of_pos_right (by omega) (Nat.two_pow_pos _)
      rw [hu]
      omega
    rw [hs, hu, Nat.mul_assoc, Nat.mul_comm (2 ^ k) denominator]
    simp only []
    rw [nearestEven_mul_right _ (Nat.mul_pos h (Nat.two_pow_pos _))]
    omega

end SpatialQuery
