import SafeSignalTrader.DecimalGrid

/-!
# The order of rounded decimals

Rounding to the digits of a context keeps the order of magnitudes, so it does
not cross a number that the context keeps, and it moves every number up to a
bound by half of the last digit of the bound at most.
-/

namespace DecimalContext

variable {Number : Type*}
variable [Field Number] [LinearOrder Number] [FloorRing Number]
variable [IsStrictOrderedRing Number]

/-- Rounding to the nearest integer keeps the order. -/
theorem roundHalfEven_mono :
    Monotone (roundHalfEven : Number → Int) := by
  intro lower upper ordered
  have floors : ⌊lower⌋ ≤ ⌊upper⌋ := Int.floor_mono ordered
  rcases lt_or_eq_of_le floors with apart | same
  · -- An integer lies between the two.
    have upperReached : ⌊lower⌋ + 1 ≤ roundHalfEven upper :=
      le_roundHalfEven (le_trans
        (by exact_mod_cast Int.add_one_le_of_lt apart)
        (Int.floor_le upper))
    rcases roundHalfEven_cases lower with ⟨isFloor, _⟩ | ⟨isNext, _⟩
    · omega
    · omega
  · simp only [roundHalfEven, same]
    by_cases upperNear : upper - ⌊upper⌋ < 1 / 2
    · have lowerNear : lower - ⌊upper⌋ < 1 / 2 :=
        lt_of_le_of_lt (sub_le_sub_right ordered _) upperNear
      rw [if_pos upperNear, if_pos lowerNear]
    · by_cases upperFar : 1 / 2 < upper - ⌊upper⌋
      · rw [if_neg upperNear, if_pos upperFar]
        split
        · omega
        · split
          · omega
          · split <;> omega
      · have lowerNotFar : ¬ 1 / 2 < lower - ⌊upper⌋ :=
          fun far => upperFar
            (lt_of_lt_of_le far (sub_le_sub_right ordered _))
        rw [if_neg upperNear, if_neg upperFar, if_neg lowerNotFar]
        split
        · split <;> omega
        · exact le_rfl

namespace Context

variable {context : Context}
variable {number bound : Number}

/-- A magnitude with a lower last digit has a power of ten above it. -/
theorem exists_pow_between
    (positive : 0 < |number|)
    (boundPositive : 0 < |bound|)
    (finer : context.lastExponent number < context.lastExponent bound) :
    ∃ exponent,
      context.etiny ≤ exponent ∧ |number| ≤ (10 : Number) ^ exponent ∧
        (10 : Number) ^ exponent ≤ |bound| := by
  have precisionPos := context.precisionPositive
  have tiny : context.etiny ≤ context.lastExponent number :=
    le_max_right _ _
  have last :
      Int.log 10 |number| - (context.precision - 1) ≤
        context.lastExponent number := le_max_left _ _
  have boundLast :
      context.lastExponent bound =
        Int.log 10 |bound| - (context.precision - 1) := by
    rcases max_choice (Int.log 10 |bound| - (context.precision - 1))
        context.etiny with isLog | isTiny
    · exact isLog
    · have isLast : context.lastExponent bound = context.etiny := isTiny
      omega
  refine ⟨Int.log 10 |bound|, by omega, ?_, ?_⟩
  · exact le_of_lt ((log_lt_iff positive).mp (by omega))
  · exact (le_log_iff boundPositive).mp le_rfl

/-- A larger magnitude has a last digit at least as high. -/
theorem lastExponent_mono
    (positive : 0 < |number|)
    (ordered : |number| ≤ |bound|) :
    context.lastExponent number ≤ context.lastExponent bound := by
  have logs : Int.log 10 |number| ≤ Int.log 10 |bound| :=
    (le_log_iff (lt_of_lt_of_le positive ordered)).mpr
      (le_trans ((le_log_iff positive).mp le_rfl) ordered)
  exact max_le_max_right _ (Int.sub_le_sub_right logs _)

/-- Rounding keeps the order of magnitudes. -/
theorem roundedMagnitude_mono
    (ordered : |number| ≤ |bound|) :
    context.roundedMagnitude number ≤ context.roundedMagnitude bound := by
  by_cases zero : number = 0
  · rw [← abs_rounded, zero, rounded_zero, abs_zero]
    exact roundedMagnitude_nonneg
  · have numberPos : 0 < |number| := abs_pos.mpr zero
    have boundPos : 0 < |bound| := lt_of_lt_of_le numberPos ordered
    have places :
        context.lastExponent number ≤ context.lastExponent bound :=
      lastExponent_mono numberPos ordered
    rcases lt_or_eq_of_le places with finer | same
    · obtain ⟨exponent, reaches, below, above⟩ :=
        exists_pow_between numberPos boundPos finer
      have numberRounded := abs_rounded_le_pow reaches below
      have boundRounded := pow_le_abs_rounded reaches above
      rw [abs_rounded] at numberRounded boundRounded
      exact le_trans numberRounded boundRounded
    · have samePlace :
          context.lastPlace number = context.lastPlace bound := by
        rw [lastPlace, lastPlace, same]
      rw [roundedMagnitude, roundedMagnitude, samePlace]
      apply mul_le_mul_of_nonneg_right _ (le_of_lt lastPlace_pos)
      exact Int.cast_le.mpr (roundHalfEven_mono
        (div_le_div_of_nonneg_right ordered (le_of_lt lastPlace_pos)))

/-- Rounding does not cross a number that is kept. -/
theorem abs_rounded_le_of_kept
    (kept : context.rounded bound = bound)
    (below : |number| ≤ bound) :
    |context.rounded number| ≤ bound := by
  have boundNonneg : 0 ≤ bound := le_trans (abs_nonneg _) below
  have magnitudes :
      context.roundedMagnitude number ≤ context.roundedMagnitude bound :=
    roundedMagnitude_mono (by rw [abs_of_nonneg boundNonneg]; exact below)
  rw [← abs_rounded, ← abs_rounded, kept, abs_of_nonneg boundNonneg]
    at magnitudes
  exact magnitudes

/-- The absolute error of rounding the numbers up to a normal bound. -/
theorem abs_rounded_sub_mul_le_of_le
    (normal : (10 : Number) ^ context.emin ≤ bound)
    (below : |number| ≤ bound) :
    |context.rounded number - number| *
        (2 * 10 ^ (context.precision - 1)) ≤ bound := by
  have boundPos : 0 < bound := lt_of_lt_of_le (pow_pos _) normal
  have boundAbs : |bound| = bound := abs_of_pos boundPos
  by_cases zero : number = 0
  · rw [zero, rounded_zero, sub_zero, abs_zero, zero_mul]
    exact le_of_lt boundPos
  · have moved := @abs_rounded_sub_le _ _ _ _ context _ number
    have places : context.lastPlace number ≤ context.lastPlace bound :=
      pow_le_pow (lastExponent_mono (abs_pos.mpr zero)
        (by rw [boundAbs]; exact below))
    calc
      |context.rounded number - number| *
            (2 * 10 ^ (context.precision - 1)) ≤
          context.lastPlace number / 2 *
            (2 * 10 ^ (context.precision - 1)) :=
        mul_le_mul_of_nonneg_right moved (by positivity)
      _ = context.lastPlace number * 10 ^ (context.precision - 1) := by ring
      _ ≤ context.lastPlace bound * 10 ^ (context.precision - 1) :=
        mul_le_mul_of_nonneg_right places (by positivity)
      _ ≤ |bound| := lastPlace_mul_le (by rw [boundAbs]; exact normal)
      _ = bound := boundAbs

end Context

end DecimalContext
