import SpatialQuery.Number.Binary64

/-!
# The interchange form of a number

The bits of a number: its sign, eleven bits of exponent and 52 bits of fraction. Read as one whole
number without the sign, exponent and fraction are the rank of the magnitude.
-/

namespace SpatialQuery.Binary64

/-- The weight of the bit of the sign. -/
def signWeight : Nat := 2 ^ 63

/-- The number of a sign and the bits after it, which are a rank, or mark an infinity, or else no
number. -/
def ofSignedBits (negative : Bool) (rank : Nat) : Binary64 :=
  if h : rank < magnitudeCount then finite negative ⟨rank, h⟩
  else if rank = magnitudeCount then infinite negative
  else nan

/-- The number with the given 64 bits. -/
def ofBits (bits : Nat) : Binary64 :=
  ofSignedBits (bits / signWeight % 2 == 1) (bits % signWeight)

/-- The bits of a sign and of what follows it. -/
def signedBits (negative : Bool) (rank : Nat) : Nat :=
  if negative then signWeight + rank else rank

/-- The bits of a number; all numbers that are not a number share the bits of a quiet one. -/
def toBits : Binary64 → Nat
  | nan => magnitudeCount + 2 ^ 51
  | infinite negative => signedBits negative magnitudeCount
  | finite negative rank => signedBits negative rank

/-- A sign and the bits after it are read back. -/
theorem ofBits_signedBits {negative : Bool} {rank : Nat} (h : rank < signWeight) :
    ofBits (signedBits negative rank) = ofSignedBits negative rank := by
  cases negative
  · simp [ofBits, signedBits, Nat.div_eq_of_lt h, Nat.mod_eq_of_lt h]
  · have hw : 0 < signWeight := Nat.lt_of_le_of_lt (Nat.zero_le _) h
    simp [ofBits, signedBits, Nat.add_div_left _ hw, Nat.div_eq_of_lt h, Nat.mod_eq_of_lt h]

/-- The bits after the sign hold every rank and the mark of an infinity. -/
theorem magnitudeCount_lt_signWeight : magnitudeCount < signWeight := by decide

/-- The mark of an infinity is read as one. -/
theorem ofSignedBits_magnitudeCount (negative : Bool) :
    ofSignedBits negative magnitudeCount = infinite negative := by
  unfold ofSignedBits
  rw [dif_neg (Nat.lt_irrefl _), if_pos rfl]

/-- A rank is read as the number with that rank. -/
theorem ofSignedBits_rank (negative : Bool) (rank : Fin magnitudeCount) :
    ofSignedBits negative rank = finite negative rank := by
  unfold ofSignedBits
  rw [dif_pos rank.isLt]

/-- The bits of a number give the number back. -/
theorem ofBits_toBits : (x : Binary64) → ofBits x.toBits = x
  | nan => by decide
  | infinite negative =>
    (ofBits_signedBits magnitudeCount_lt_signWeight).trans (ofSignedBits_magnitudeCount negative)
  | finite negative rank =>
    (ofBits_signedBits (Nat.lt_trans rank.isLt magnitudeCount_lt_signWeight)).trans
      (ofSignedBits_rank negative rank)

end SpatialQuery.Binary64
