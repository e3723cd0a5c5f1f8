import SafeSignalTrader.DecimalContext

/-!
# Decimals on a grid

How far rounding to the digits of a context moves a number, and which numbers
it leaves among the same multiples of a unit: a quotient of integers is not
moved over a decimal place that it does not meet.
-/

namespace DecimalContext

open DecimalRounding

variable {Number : Type*}
variable [Field Number] [LinearOrder Number]

/-- Two numbers on the same side of every multiple of a unit. -/
structure SameGrid (unit first second : Number) : Prop where
  reaches : ∀ count : Int, count * unit ≤ first ↔ count * unit ≤ second
  within : ∀ count : Int, first ≤ count * unit ↔ second ≤ count * unit

/-- A number that moves by less than its distance from each multiple. -/
theorem SameGrid.of_near
    [IsStrictOrderedRing Number]
    {unit first second : Number}
    (kept : ∀ count : Int, first = count * unit → second = first)
    (near : ∀ count : Int, first ≠ count * unit →
      |second - first| < |first - count * unit|) :
    SameGrid unit first second := by
  have sides : ∀ count : Int,
      (count * unit ≤ first ↔ count * unit ≤ second) ∧
        (first ≤ count * unit ↔ second ≤ count * unit) := by
    intro count
    by_cases onGrid : first = count * unit
    · rw [kept count onGrid]
      exact ⟨Iff.rfl, Iff.rfl⟩
    · have moved := abs_lt.mp (near count onGrid)
      rcases lt_or_gt_of_ne onGrid with below | above
      · rw [abs_of_neg (sub_neg.mpr below)] at moved
        constructor
        · exact iff_of_false (not_le.mpr below) (by linarith)
        · exact iff_of_true (le_of_lt below) (by linarith)
      · rw [abs_of_pos (sub_pos.mpr above)] at moved
        constructor
        · exact iff_of_true (le_of_lt above) (by linarith)
        · exact iff_of_false (not_le.mpr above) (by linarith)
  exact ⟨fun count => (sides count).1, fun count => (sides count).2⟩

variable [FloorRing Number]

section Grid

variable [IsStrictOrderedRing Number]
variable {unit first second : Number}

/-- Numbers on the same side of every multiple have the same multiples. -/
theorem SameGrid.quantizeDown_eq
    (same : SameGrid unit first second)
    (positive : 0 < unit) :
    quantizeDown unit first = quantizeDown unit second := by
  have nonneg : 0 ≤ first / unit ↔ 0 ≤ second / unit := by
    have reachesZero := same.reaches 0
    rw [Int.cast_zero] at reachesZero
    rw [le_div_iff₀ positive, le_div_iff₀ positive, reachesZero]
  have floors : ⌊first / unit⌋ = ⌊second / unit⌋ := by
    refine eq_of_forall_le_iff ?_
    intro count
    rw [Int.le_floor, Int.le_floor, le_div_iff₀ positive,
      le_div_iff₀ positive]
    exact same.reaches count
  have ceilings : ⌈first / unit⌉ = ⌈second / unit⌉ := by
    refine eq_of_forall_ge_iff ?_
    intro count
    rw [Int.ceil_le, Int.ceil_le, div_le_iff₀ positive,
      div_le_iff₀ positive]
    exact same.within count
  simp only [quantizeDown, floorDiv, truncate, nonneg, floors, ceilings]

end Grid

namespace Context

variable {context : Context}
variable [IsStrictOrderedRing Number]
variable {number : Number}

/-- Rounding to the nearest integer moves a number by half at most. -/
theorem abs_roundHalfEven_sub_le (number : Number) :
    |(roundHalfEven number : Number) - number| ≤ 1 / 2 := by
  have floorLe := Int.floor_le number
  have belowNext := Int.lt_floor_add_one number
  rw [abs_le]
  rcases roundHalfEven_cases number with ⟨isFloor, near⟩ | ⟨isNext, far⟩
  · rw [isFloor]
    constructor <;> linarith
  · rw [isNext, Int.cast_add, Int.cast_one]
    constructor <;> linarith

/-- Rounding to the digits of a context moves half of the last one at most. -/
theorem abs_rounded_sub_le (number : Number) :
    |context.rounded number - number| ≤ context.lastPlace number / 2 := by
  have place : 0 < context.lastPlace number := lastPlace_pos
  have magnitude :
      |context.roundedMagnitude number - (|number|)| ≤
        context.lastPlace number / 2 := by
    have split :
        context.roundedMagnitude number - |number| =
          (roundHalfEven (|number| / context.lastPlace number) -
              |number| / context.lastPlace number) *
            context.lastPlace number := by
      rw [roundedMagnitude, sub_mul, div_mul_cancel₀ _ (ne_of_gt place)]
    rw [split, abs_mul, abs_of_pos place,
      ← one_div_mul_eq_div 2 (context.lastPlace number)]
    exact mul_le_mul_of_nonneg_right (abs_roundHalfEven_sub_le _)
      (le_of_lt place)
  unfold rounded
  split
  · next negative =>
      rw [abs_of_neg negative] at magnitude
      rw [← neg_add', abs_neg, ← sub_neg_eq_add]
      exact magnitude
  · next nonneg =>
      rw [abs_of_nonneg (not_lt.mp nonneg)] at magnitude
      exact magnitude

/-- A normal number has all the digits of the context. -/
theorem lastPlace_mul_le
    (normal : (10 : Number) ^ context.emin ≤ |number|) :
    context.lastPlace number * 10 ^ (context.precision - 1) ≤ |number| := by
  have positive := context.precisionPositive
  have magnitudePos := lt_of_lt_of_le (pow_pos context.emin) normal
  have leading := (le_log_iff magnitudePos).mpr normal
  have isLeading :
      context.lastExponent number =
        Int.log 10 |number| - ((context.precision - 1 : Nat) : Int) := by
    rw [lastExponent, etiny]
    omega
  rw [lastPlace, isLeading, ← zpow_natCast, ← zpow_add₀ (by norm_num),
    Int.sub_add_cancel]
  exact (le_log_iff magnitudePos).mp le_rfl

/-- The relative error of rounding a normal number. -/
theorem abs_rounded_sub_mul_le
    (normal : (10 : Number) ^ context.emin ≤ |number|) :
    |context.rounded number - number| *
        (2 * 10 ^ (context.precision - 1)) ≤ |number| := by
  have moved := @abs_rounded_sub_le _ _ _ _ context _ number
  calc
    |context.rounded number - number| * (2 * 10 ^ (context.precision - 1)) ≤
        context.lastPlace number / 2 * (2 * 10 ^ (context.precision - 1)) :=
      mul_le_mul_of_nonneg_right moved (by positivity)
    _ = context.lastPlace number * 10 ^ (context.precision - 1) := by ring
    _ ≤ |number| := lastPlace_mul_le normal

/-- A whole number of units with few digits is kept. -/
theorem rounded_of_units
    {places : Nat}
    {units : Int}
    (reaches : context.etiny ≤ -(places : Int))
    (short : |units| < 10 ^ context.precision) :
    context.rounded ((units : Number) / 10 ^ places) =
      units / 10 ^ places := by
  refine rounded_of_digits reaches short ?_
  rw [zpow_neg, zpow_natCast, div_eq_mul_inv]

section Quotient

variable {numerator denominator : Int} {places : Nat}

/-- A quotient off a decimal place is a whole unit of its divisor away. -/
theorem unit_le_abs_quotient_sub
    (positive : 0 < denominator)
    {count : Int}
    (offGrid : (numerator : Number) / denominator ≠ count / 10 ^ places) :
    1 / (denominator * 10 ^ places) ≤
      |(numerator : Number) / denominator - count / 10 ^ places| := by
  have denominatorPos : (0 : Number) < denominator := Int.cast_pos.mpr positive
  have tens : (0 : Number) < 10 ^ places := by positivity
  have difference :
      (numerator : Number) / denominator - count / 10 ^ places =
        ((numerator * 10 ^ places - denominator * count : Int) : Number) /
          (denominator * 10 ^ places) := by
    rw [div_sub_div _ _ (ne_of_gt denominatorPos) (ne_of_gt tens)]
    push_cast
    rfl
  have nonzero : numerator * 10 ^ places - denominator * count ≠ 0 := by
    intro zero
    rw [zero, Int.cast_zero, zero_div, sub_eq_zero] at difference
    exact offGrid difference
  rw [difference, abs_div, abs_of_pos (mul_pos denominatorPos tens)]
  apply div_le_div_of_nonneg_right _ (le_of_lt (mul_pos denominatorPos tens))
  rw [← Int.cast_abs, ← Int.cast_one, Int.cast_le]
  exact Int.one_le_abs nonzero

/--
A quotient of integers keeps its place among the decimals of some places when
its dividend has a digit less than the context with those places.
-/
theorem sameGrid_quotient
    (positive : 0 < denominator)
    (reaches : context.etiny ≤ -(places : Int))
    (normal : (denominator : Number) * 10 ^ context.emin ≤ 1)
    (short : |numerator| * 10 ^ places < 2 * 10 ^ (context.precision - 1)) :
    SameGrid (1 / (10 : Number) ^ places) (numerator / denominator)
      (context.rounded ((numerator : Number) / denominator)) := by
  have precisionPos := context.precisionPositive
  have denominatorPos : (0 : Number) < denominator := Int.cast_pos.mpr positive
  have tens : (0 : Number) < 10 ^ places := by positivity
  have shortCast :
      (|numerator| : Number) * 10 ^ places <
        2 * 10 ^ (context.precision - 1) := by
    exact_mod_cast short
  apply SameGrid.of_near
  · intro count onGrid
    rw [mul_one_div] at onGrid
    rw [onGrid]
    apply rounded_of_units reaches
    -- The place has at most the digits of the scaled dividend.
    have scaled : count * denominator = numerator * 10 ^ places := by
      rw [div_eq_div_iff (ne_of_gt denominatorPos) (ne_of_gt tens)] at onGrid
      exact_mod_cast onGrid.symm
    have countLe : |count| ≤ |numerator| * 10 ^ places := by
      calc
        |count| ≤ |count| * denominator :=
          le_mul_of_one_le_right (abs_nonneg _) positive
        _ = |numerator * 10 ^ places| := by
          rw [← scaled, abs_mul, abs_of_pos positive]
        _ = |numerator| * 10 ^ places := by
          rw [abs_mul, abs_of_pos (Int.pow_pos (by norm_num))]
    have digits : (2 : Int) * 10 ^ (context.precision - 1) ≤
        10 ^ context.precision := by
      obtain ⟨rest, precisionShape⟩ :=
        Nat.exists_eq_succ_of_ne_zero (Nat.pos_iff_ne_zero.mp precisionPos)
      rw [precisionShape, Nat.succ_sub_one, pow_succ, mul_comm]
      exact mul_le_mul_of_nonneg_left (by norm_num) (by positivity)
    exact lt_of_lt_of_le (lt_of_le_of_lt countLe short) digits
  · intro count offGrid
    rw [mul_one_div] at offGrid ⊢
    refine lt_of_lt_of_le ?_ (unit_le_abs_quotient_sub positive offGrid)
    by_cases zero : numerator = 0
    · rw [zero, Int.cast_zero, zero_div, rounded_zero, sub_zero, abs_zero]
      positivity
    · have oneLe : (1 : Number) ≤ |(numerator : Number)| := by
        rw [← Int.cast_abs, ← Int.cast_one, Int.cast_le]
        exact Int.one_le_abs zero
      have isNormal :
          (10 : Number) ^ context.emin ≤
            |(numerator : Number) / denominator| := by
        rw [abs_div, abs_of_pos denominatorPos, le_div_iff₀ denominatorPos,
          mul_comm]
        exact le_trans normal oneLe
      have moved := abs_rounded_sub_mul_le isNormal
      have digitsPos : (0 : Number) < 2 * 10 ^ (context.precision - 1) := by
        positivity
      rw [← le_div_iff₀ digitsPos, abs_div, abs_of_pos denominatorPos,
        div_div] at moved
      apply lt_of_le_of_lt moved
      rw [div_lt_div_iff₀ (mul_pos denominatorPos digitsPos)
        (mul_pos denominatorPos tens)]
      calc
        |(numerator : Number)| * (denominator * 10 ^ places) =
            denominator * (|(numerator : Number)| * 10 ^ places) := by ring
        _ < denominator * (2 * 10 ^ (context.precision - 1)) :=
          mul_lt_mul_of_pos_left shortCast denominatorPos
        _ = 1 * (denominator * (2 * 10 ^ (context.precision - 1))) :=
          (one_mul _).symm

end Quotient

end Context

end DecimalContext
