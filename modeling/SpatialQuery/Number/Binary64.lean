/-!
# Binary floating-point numbers of 64 bits

The numbers of the library are those of the binary interchange format of 64 bits. A finite number
is its sign and the rank of its magnitude among the magnitudes, counted from zero; ranks ascend
with magnitudes, so the order of numbers is the order of ranks. All numbers that are not a number
count as one.

Equality of the type tells `0` from `-0` and finds `nan` equal to itself. The numeric comparisons
`lt` and `sameValue` do neither.

## Implementation notes

Magnitudes are whole multiples of the smallest positive one, `2 ^ -1074`. The multiple with a
given rank is `units`: the first `2 ^ 53` ranks are their own units, and from there on each block
of `2 ^ 52` ranks has twice the spacing of the block below it.
-/

namespace SpatialQuery

/-- Powers of naturals are those of the core library, whatever else is imported. -/
@[default_instance 20000]
instance (priority := 20000) powNat : Pow Nat Nat := instPowNat

/-- The number of finite magnitudes. -/
def magnitudeCount : Nat := 2047 * 2 ^ 52

/-- A number of the binary interchange format of 64 bits. -/
inductive Binary64 where
  /-- The result that is not a number. -/
  | nan
  /-- An infinity of the given sign. -/
  | infinite (negative : Bool)
  /-- The number of the given sign whose magnitude has the given rank. -/
  | finite (negative : Bool) (rank : Fin magnitudeCount)
deriving DecidableEq, Inhabited

namespace Binary64

/-- The magnitude of a rank, counted in units of `2 ^ -1074`. -/
def units (rank : Nat) : Nat :=
  if rank < 2 ^ 52 then rank else (2 ^ 52 + rank % 2 ^ 52) * 2 ^ (rank / 2 ^ 52 - 1)

/-- The number zero. -/
def zero : Binary64 := finite false ⟨0, by decide⟩

/-- The number of a sign and a rank; ranks past the last magnitude give an infinity. -/
def ofRank (negative : Bool) (rank : Nat) : Binary64 :=
  if h : rank < magnitudeCount then finite negative ⟨rank, h⟩ else infinite negative

/-- A number is finite when it is neither `nan` nor an infinity. -/
def isFinite : Binary64 → Bool
  | finite _ _ => true
  | _ => false

/-- The place of a number in the numeric order, where both zeros have the place zero. -/
def place? : Binary64 → Option Int
  | nan => none
  | infinite negative => some (if negative then -magnitudeCount else magnitudeCount)
  | finite negative rank => some (if negative then -rank.val else rank.val)

/-- The numeric order, in which `nan` is below nothing and above nothing. -/
def lt (x y : Binary64) : Bool :=
  match x.place?, y.place? with
  | some i, some j => i < j
  | _, _ => false

/-- Numeric equality: the zeros are equal and `nan` is equal to nothing. -/
def sameValue (x y : Binary64) : Bool :=
  match x.place?, y.place? with
  | some i, some j => i == j
  | _, _ => false

/-- A number has the same value as itself unless it is not a number. -/
theorem sameValue_self (x : Binary64) : x.sameValue x = (x != nan) := by
  cases x <;> simp [sameValue, place?, bne]

/-- A greater rank is a greater magnitude. -/
theorem units_lt_units {a b : Nat} (h : a < b) : units a < units b := by
  have step : ∀ n, units n < units (n + 1) := by
    intro n
    unfold units
    by_cases h1 : n + 1 < 2 ^ 52
    · rw [if_pos (by omega), if_pos h1]
      omega
    · rw [if_neg h1]
      by_cases h0 : n < 2 ^ 52
      · rw [if_pos h0]
        have : n = 2 ^ 52 - 1 := by omega
        subst this
        decide
      · rw [if_neg h0]
        by_cases hm : (n + 1) % 2 ^ 52 = 0
        · have hq : (n + 1) / 2 ^ 52 = n / 2 ^ 52 + 1 := by omega
          have hr : n % 2 ^ 52 = 2 ^ 52 - 1 := by omega
          have hp : n / 2 ^ 52 = (n / 2 ^ 52 - 1) + 1 := by omega
          rw [hm, hq, hr, Nat.add_sub_cancel]
          generalize n / 2 ^ 52 - 1 = k at hp
          rw [hp, Nat.pow_succ]
          have : 0 < 2 ^ k := Nat.two_pow_pos k
          omega
        · have hq : (n + 1) / 2 ^ 52 = n / 2 ^ 52 := by omega
          have hr : (n + 1) % 2 ^ 52 = n % 2 ^ 52 + 1 := by omega
          rw [hq, hr]
          exact Nat.mul_lt_mul_of_pos_right (by omega) (Nat.two_pow_pos _)
  induction h with
  | refl => exact step a
  | step _ ih => exact Nat.lt_trans ih (step _)

end Binary64

end SpatialQuery
