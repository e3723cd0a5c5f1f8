import Mathlib.Algebra.Order.Floor.Ring
import Mathlib.Algebra.Order.Field.Basic
import Mathlib.Data.Int.ConditionallyCompleteOrder
import Mathlib.Data.Rat.Floor

/-!
# Rounding toward zero

Truncation, truncating division and rounding down to a quantum, over any
ordered field with a floor.  These are the `//` operator and the `ROUND_DOWN`
mode of exact decimal arithmetic.
-/

namespace DecimalRounding

variable {Number : Type*}
variable [Field Number] [LinearOrder Number] [IsStrictOrderedRing Number]
variable [FloorRing Number]

/-- The integer part, rounded toward zero. -/
def truncate (number : Number) : Int :=
  if 0 ≤ number then ⌊number⌋ else ⌈number⌉

/-- Truncating division `number // step`. -/
def floorDiv (number step : Number) : Int :=
  truncate (number / step)

/-- The multiple of a quantum next to a number toward zero. -/
def quantizeDown (quantum number : Number) : Number :=
  floorDiv number quantum * quantum

variable {number quantum : Number}

theorem floorDiv_of_nonneg
    (positive : 0 < quantum)
    (nonneg : 0 ≤ number) :
    floorDiv number quantum = ⌊number / quantum⌋ :=
  if_pos (div_nonneg nonneg (le_of_lt positive))

/-- Rounding down a non-negative number never raises it. -/
theorem quantizeDown_le
    (positive : 0 < quantum)
    (nonneg : 0 ≤ number) :
    quantizeDown quantum number ≤ number := by
  rw [quantizeDown, floorDiv_of_nonneg positive nonneg]
  exact (le_div_iff₀ positive).mp (Int.floor_le (number / quantum))

/-- Rounding down a non-negative number stays non-negative. -/
theorem quantizeDown_nonneg
    (positive : 0 < quantum)
    (nonneg : 0 ≤ number) :
    0 ≤ quantizeDown quantum number := by
  rw [quantizeDown, floorDiv_of_nonneg positive nonneg]
  apply mul_nonneg
  · exact Int.cast_nonneg (Int.floor_nonneg.mpr
      (div_nonneg nonneg (le_of_lt positive)))
  · exact le_of_lt positive

/-- Rounding toward zero keeps a non-positive number non-positive. -/
theorem quantizeDown_nonpos
    (positive : 0 < quantum)
    (nonpos : number ≤ 0) :
    quantizeDown quantum number ≤ 0 := by
  rcases lt_or_eq_of_le nonpos with negative | zero
  · have below : number / quantum < 0 := div_neg_of_neg_of_pos negative positive
    rw [quantizeDown, floorDiv, truncate, if_neg (not_le.mpr below)]
    apply mul_nonpos_of_nonpos_of_nonneg
    · exact Int.cast_nonpos.mpr (Int.ceil_le.mpr (by simpa using le_of_lt below))
    · exact le_of_lt positive
  · rw [zero]
    simp [quantizeDown, floorDiv, truncate]

/-- Only a positive number is quantized to a positive one. -/
theorem pos_of_quantizeDown_pos
    (positive : 0 < quantum)
    (reached : 0 < quantizeDown quantum number) :
    0 < number := by
  by_contra empty
  exact absurd reached
    (not_lt.mpr (quantizeDown_nonpos positive (not_lt.mp empty)))

/-- Less than one quantum rounds down to nothing. -/
theorem quantizeDown_eq_zero
    (positive : 0 < quantum)
    (nonneg : 0 ≤ number)
    (small : number < quantum) :
    quantizeDown quantum number = 0 := by
  have noMultiple : ⌊number / quantum⌋ = 0 := by
    apply Int.floor_eq_zero_iff.mpr
    exact ⟨div_nonneg nonneg (le_of_lt positive),
      (div_lt_one positive).mpr small⟩
  rw [quantizeDown, floorDiv_of_nonneg positive nonneg, noMultiple,
    Int.cast_zero, zero_mul]

/-- Rounding toward zero never raises a magnitude. -/
theorem abs_quantizeDown_le (positive : 0 < quantum) :
    |quantizeDown quantum number| ≤ |number| := by
  rcases le_or_gt 0 number with nonneg | negative
  · rw [abs_of_nonneg (quantizeDown_nonneg positive nonneg),
      abs_of_nonneg nonneg]
    exact quantizeDown_le positive nonneg
  · rw [abs_of_nonpos (quantizeDown_nonpos positive (le_of_lt negative)),
      abs_of_neg negative, neg_le_neg_iff, quantizeDown, floorDiv, truncate,
      if_neg (not_le.mpr (div_neg_of_neg_of_pos negative positive)),
      ← div_le_iff₀ positive]
    exact Int.le_ceil _

/-- Rounding down a non-negative number is taking a floor. -/
theorem quantizeDown_of_nonneg
    (positive : 0 < quantum)
    (nonneg : 0 ≤ number) :
    quantizeDown quantum number = ⌊number / quantum⌋ * quantum := by
  rw [quantizeDown, floorDiv_of_nonneg positive nonneg]

/-- The floor gives the greatest multiple of a quantum below a number. -/
theorem isGreatest_floor_mul (positive : 0 < quantum) (number : Number) :
    IsGreatest
      {multiple | (∃ count : Int, multiple = count * quantum) ∧
        multiple ≤ number}
      (⌊number / quantum⌋ * quantum) := by
  constructor
  · exact ⟨⟨_, rfl⟩, (le_div_iff₀ positive).mp (Int.floor_le _)⟩
  · intro multiple below
    obtain ⟨⟨count, rfl⟩, below⟩ := below
    apply mul_le_mul_of_nonneg_right _ (le_of_lt positive)
    exact Int.cast_le.mpr
      (Int.le_floor.mpr ((le_div_iff₀ positive).mpr below))

/-- Truncating division is monotone, on both sides of zero. -/
theorem floorDiv_mono (positive : 0 < quantum) :
    Monotone fun number => floorDiv number quantum := by
  intro lower upper lowerLe
  have below : lower / quantum ≤ upper / quantum :=
    div_le_div_of_nonneg_right lowerLe (le_of_lt positive)
  simp only [floorDiv, truncate]
  by_cases lowerNonneg : 0 ≤ lower / quantum
  · rw [if_pos lowerNonneg, if_pos (le_trans lowerNonneg below)]
    exact Int.floor_mono below
  · rw [if_neg lowerNonneg]
    by_cases upperNonneg : 0 ≤ upper / quantum
    · rw [if_pos upperNonneg]
      have lowerNonpos : ⌈lower / quantum⌉ ≤ 0 :=
        Int.ceil_le.mpr (by simpa using le_of_not_ge lowerNonneg)
      exact le_trans lowerNonpos (Int.floor_nonneg.mpr upperNonneg)
    · rw [if_neg upperNonneg]
      exact Int.ceil_mono below

/-- Rounding down is monotone. -/
theorem quantizeDown_mono (positive : 0 < quantum) :
    Monotone (quantizeDown quantum) := by
  intro lower upper below
  exact mul_le_mul_of_nonneg_right
    (Int.cast_le.mpr (floorDiv_mono positive below)) (le_of_lt positive)

/-- Rounding to a quantum first does not change rounding to a multiple. -/
theorem quantizeDown_multiple
    (positive : 0 < quantum)
    {count : Nat}
    (countPositive : 0 < count)
    (nonneg : 0 ≤ number) :
    quantizeDown (count * quantum) (quantizeDown quantum number) =
      quantizeDown (count * quantum) number := by
  have multiplePositive : (0 : Number) < count * quantum :=
    mul_pos (Nat.cast_pos.mpr countPositive) positive
  have nonzero : quantum ≠ 0 := ne_of_gt positive
  have roundedUnits :
      ((⌊number / quantum⌋ : Number) * quantum) / (count * quantum) =
        (⌊number / quantum⌋ : Number) / count :=
    mul_div_mul_right _ _ nonzero
  have units : number / (count * quantum) = number / quantum / count := by
    rw [div_div, mul_comm quantum]
  rw [quantizeDown_of_nonneg multiplePositive
      (quantizeDown_nonneg positive nonneg),
    quantizeDown_of_nonneg multiplePositive nonneg,
    quantizeDown_of_nonneg positive nonneg, roundedUnits, units,
    Int.floor_div_natCast, Int.floor_div_natCast, Int.floor_intCast]

/-- A multiple of a quantum that rounds to something is at least one. -/
theorem quantum_le_quantizeDown
    (positive : 0 < quantum)
    (nonempty : 0 < quantizeDown quantum number) :
    quantum ≤ quantizeDown quantum number := by
  unfold quantizeDown at nonempty ⊢
  have atLeastOne : 1 ≤ floorDiv number quantum := by
    by_contra small
    have none : (floorDiv number quantum : Number) ≤ 0 :=
      Int.cast_nonpos.mpr (Int.lt_add_one_iff.mp (not_le.mp small))
    exact absurd nonempty
      (not_lt.mpr (mul_nonpos_of_nonpos_of_nonneg none (le_of_lt positive)))
  have oneCast : (1 : Number) ≤ floorDiv number quantum := by
    exact_mod_cast atLeastOne
  exact le_mul_of_one_le_left (le_of_lt positive) oneCast

end DecimalRounding
