import Mathlib.Data.Int.Log
import Mathlib.Tactic.Linarith
import Mathlib.Tactic.Ring
import SafeSignalTrader.DecimalRounding

/-!
# Decimal arithmetic in a context

Results of a limited precision and exponent range, rounded half to even, with
the signals that a context traps: the value level of decimal floating point
with a precision, `Emin` and `Emax`, over any ordered field with a floor.
-/

namespace DecimalContext

open DecimalRounding

/-- What an operation of a context signals. -/
inductive DecimalSignal where
  | invalidOperation
  | divisionByZero
  | overflow
  deriving Repr, DecidableEq

/-- The limits of a context. -/
structure Context where
  precision : Nat
  emin : Int
  emax : Int
  precisionPositive : 0 < precision
  deriving Repr, DecidableEq

variable {Number : Type*}
variable [Field Number] [LinearOrder Number] [FloorRing Number]

/-- The nearest integer, and the even one of two that are equally near. -/
def roundHalfEven (number : Number) : Int :=
  let below := ⌊number⌋
  let rest := number - below
  if rest < 1 / 2 then
    below
  else if 1 / 2 < rest then
    below + 1
  else if below % 2 = 0 then
    below
  else
    below + 1

/-- Rounding is one of the two integers around a number. -/
theorem roundHalfEven_cases (number : Number) :
    (roundHalfEven number = ⌊number⌋ ∧ number - ⌊number⌋ ≤ 1 / 2) ∨
      (roundHalfEven number = ⌊number⌋ + 1 ∧
        1 / 2 ≤ number - ⌊number⌋) := by
  simp only [roundHalfEven]
  by_cases lower : number - ⌊number⌋ < 1 / 2
  · rw [if_pos lower]
    exact Or.inl ⟨rfl, le_of_lt lower⟩
  · rw [if_neg lower]
    by_cases upper : 1 / 2 < number - ⌊number⌋
    · rw [if_pos upper]
      exact Or.inr ⟨rfl, le_of_lt upper⟩
    · rw [if_neg upper]
      split
      · exact Or.inl ⟨rfl, not_lt.mp upper⟩
      · exact Or.inr ⟨rfl, not_lt.mp lower⟩

/-- Rounding stays on its side of an integer from below. -/
theorem le_roundHalfEven
    {number : Number}
    {integer : Int}
    (above : (integer : Number) ≤ number) :
    integer ≤ roundHalfEven number := by
  have belowFloor : integer ≤ ⌊number⌋ := Int.le_floor.mpr above
  rcases roundHalfEven_cases number with ⟨isFloor, _⟩ | ⟨isNext, _⟩
  · rw [isFloor]
    exact belowFloor
  · rw [isNext]
    exact Int.le_add_one belowFloor

/-- A power of ten is a whole multiple of every lower one. -/
theorem pow_eq_mul_pow {low high : Int} (ordered : low ≤ high) :
    (10 : Number) ^ high =
      ((10 ^ (high - low).toNat : Int) : Number) * 10 ^ low := by
  have ten : (10 : Number) ≠ 0 := by norm_num
  have whole :
      ((10 ^ (high - low).toNat : Int) : Number) = 10 ^ (high - low) := by
    rw [Int.cast_pow, Int.cast_ofNat, ← zpow_natCast,
      Int.toNat_of_nonneg (Int.sub_nonneg.mpr ordered)]
  rw [whole, ← zpow_add₀ ten, Int.sub_add_cancel]

namespace Context

variable (context : Context)

/-- `Etiny`, the least exponent of a subnormal number. -/
def etiny : Int :=
  context.emin - (context.precision - 1)

/-- The exponent of the last digit that is kept of a number. -/
def lastExponent (number : Number) : Int :=
  max (Int.log 10 |number| - (context.precision - 1)) context.etiny

/-- The value of the last digit that is kept of a number. -/
def lastPlace (number : Number) : Number :=
  10 ^ context.lastExponent number

/-- The magnitude of a number to the digits of a context. -/
def roundedMagnitude (number : Number) : Number :=
  roundHalfEven (|number| / context.lastPlace number) *
    context.lastPlace number

/-- A number to the digits of a context. -/
def rounded (number : Number) : Number :=
  if number < 0 then
    -context.roundedMagnitude number
  else
    context.roundedMagnitude number

/-- The result of an operation whose exact value is a number. -/
def finalize (number : Number) : Except DecimalSignal Number :=
  if (10 : Number) ^ (context.emax + 1) ≤ |context.rounded number| then
    .error .overflow
  else
    .ok (context.rounded number)

/-- Division in a context. -/
def divide (number divisor : Number) : Except DecimalSignal Number :=
  if divisor = 0 then
    .error (if number = 0 then .invalidOperation else .divisionByZero)
  else
    context.finalize (number / divisor)

/-- Truncating division in a context. -/
def divideInt (number divisor : Number) : Except DecimalSignal Number :=
  if divisor = 0 then
    .error (if number = 0 then .invalidOperation else .divisionByZero)
  else if (10 : Int) ^ context.precision ≤ |floorDiv number divisor| then
    .error .invalidOperation
  else
    .ok (floorDiv number divisor)

/-- Rounding toward zero to an exponent in a context. -/
def quantize (exponent : Int) (number : Number) :
    Except DecimalSignal Number :=
  if exponent < context.etiny ∨ context.emax < exponent then
    .error .invalidOperation
  else if number ≠ 0 ∧
      context.precision < Int.log 10 |number| - exponent + 1 then
    .error .invalidOperation
  else if (10 : Number) ^ (context.emax + 1) ≤
      |quantizeDown ((10 : Number) ^ exponent) number| then
    .error .invalidOperation
  else
    .ok (quantizeDown ((10 : Number) ^ exponent) number)

variable {context}

/-- The one result an operation can have is the rounded one. -/
theorem finalize_eq_ok_iff {number result : Number} :
    context.finalize number = .ok result ↔
      |context.rounded number| < (10 : Number) ^ (context.emax + 1) ∧
        context.rounded number = result := by
  unfold finalize
  split
  · next above => simp [not_lt.mpr above]
  · next below => simp [not_le.mp below]

/-- What is quantized is rounded toward zero. -/
theorem quantize_eq_ok
    {exponent : Int}
    {number result : Number}
    (quantized : context.quantize exponent number = .ok result) :
    result = quantizeDown ((10 : Number) ^ exponent) number := by
  unfold quantize at quantized
  split at quantized
  · cases quantized
  · split at quantized
    · cases quantized
    · split at quantized
      · cases quantized
      · cases quantized
        rfl

/-- What is divided to an integer is truncated, to few digits. -/
theorem divideInt_eq_ok
    {number divisor result : Number}
    (divided : context.divideInt number divisor = .ok result) :
    result = floorDiv number divisor ∧
      |floorDiv number divisor| < 10 ^ context.precision := by
  unfold divideInt at divided
  split at divided
  · cases divided
  · split at divided
    · cases divided
    · next few =>
        cases divided
        exact ⟨rfl, not_le.mp few⟩

/-- A quotient of few digits is divided. -/
theorem divideInt_of_lt
    {number divisor : Number}
    (nonzero : divisor ≠ 0)
    (fits : |floorDiv number divisor| < 10 ^ context.precision) :
    context.divideInt number divisor = .ok (floorDiv number divisor) := by
  rw [divideInt, if_neg nonzero, if_neg (not_le.mpr fits)]

/-- The digits of a magnitude are those of the number it is rounded to. -/
theorem exists_digits_of_magnitude
    {number : Number}
    {digits exponent : Int}
    (short : |digits| < 10 ^ context.precision)
    (shape :
      context.roundedMagnitude number = digits * (10 : Number) ^ exponent) :
    ∃ signed : Int,
      |signed| < 10 ^ context.precision ∧
        context.rounded number = signed * (10 : Number) ^ exponent := by
  by_cases negative : number < 0
  · refine ⟨-digits, by rw [abs_neg]; exact short, ?_⟩
    rw [rounded, if_pos negative, shape, Int.cast_neg, neg_mul]
  · refine ⟨digits, short, ?_⟩
    rw [rounded, if_neg negative, shape]

/-- Digits that overflow are the next power, which needs one digit. -/
theorem roundedMagnitude_carried
    {number : Number}
    (carried :
      roundHalfEven (|number| / context.lastPlace number) =
        10 ^ context.precision) :
    ∃ digits : Int,
      |digits| < 10 ^ context.precision ∧
        context.roundedMagnitude number =
          digits * (10 : Number) ^ (context.lastExponent number + 1) := by
  have ten : (10 : Number) ≠ 0 := by norm_num
  obtain ⟨rest, precisionShape⟩ :=
    Nat.exists_eq_succ_of_ne_zero
      (Nat.pos_iff_ne_zero.mp context.precisionPositive)
  refine ⟨10 ^ rest, ?_, ?_⟩
  · rw [abs_of_nonneg (by positivity), precisionShape]
    exact pow_lt_pow_right₀ (by norm_num) (Nat.lt_succ_self rest)
  · rw [roundedMagnitude, carried, precisionShape, lastPlace,
      zpow_add_one₀ ten, Int.cast_pow, Int.cast_pow, Int.cast_ofNat,
      pow_succ]
    ring

end Context

variable [IsStrictOrderedRing Number]

section HalfEven

variable {number : Number} {integer : Int}

/-- Rounding stays on its side of an integer from above. -/
theorem roundHalfEven_le (below : number ≤ integer) :
    roundHalfEven number ≤ integer := by
  rcases roundHalfEven_cases number with ⟨isFloor, _⟩ | ⟨isNext, far⟩
  · rw [isFloor]
    exact_mod_cast le_trans (Int.floor_le number) below
  · rw [isNext, Int.add_one_le_iff]
    have strict : (⌊number⌋ : Number) < integer := by
      have half : (0 : Number) < 1 / 2 := by norm_num
      have apart := lt_of_lt_of_le half far
      exact lt_of_lt_of_le (sub_pos.mp apart) below
    exact_mod_cast strict

theorem roundHalfEven_intCast (integer : Int) :
    roundHalfEven (integer : Number) = integer :=
  le_antisymm (roundHalfEven_le le_rfl) (le_roundHalfEven le_rfl)

/-- Half a unit below an even integer is rounded up to it, and no less is. -/
theorem even_le_roundHalfEven_iff (even : integer % 2 = 0) :
    integer ≤ roundHalfEven number ↔
      (integer : Number) - 1 / 2 ≤ number := by
  rcases le_or_gt (integer : Number) number with above | below
  · have near : (integer : Number) - 1 / 2 ≤ number := by linarith
    exact iff_of_true (le_roundHalfEven above) near
  · have floorBelow : ⌊number⌋ ≤ integer - 1 := by
      have strict := Int.floor_lt.mpr below
      omega
    rcases lt_or_eq_of_le floorBelow with far | next
    · have lowFloor : ⌊number⌋ + 1 ≤ integer - 1 := by omega
      have lowCast : (⌊number⌋ : Number) + 1 ≤ integer - 1 := by
        exact_mod_cast lowFloor
      have belowNext := Int.lt_floor_add_one number
      refine iff_of_false ?_ (by linarith)
      rcases roundHalfEven_cases number with ⟨isFloor, _⟩ | ⟨isNext, _⟩
      · omega
      · omega
    · have nextCast : (⌊number⌋ : Number) = integer - 1 := by
        exact_mod_cast next
      have odd : ¬ ⌊number⌋ % 2 = 0 := by omega
      simp only [roundHalfEven, if_neg odd, nextCast]
      by_cases lower : number - (integer - 1) < 1 / 2
      · rw [if_pos lower, next]
        exact iff_of_false (by omega) (by linarith)
      · rw [if_neg lower, ite_self, next]
        exact iff_of_true (by omega) (by linarith)

end HalfEven

section Powers

variable {number : Number} {low high exponent : Int}

theorem le_log_iff (positive : 0 < number) :
    exponent ≤ Int.log 10 number ↔ (10 : Number) ^ exponent ≤ number := by
  have logarithm :=
    Int.zpow_le_iff_le_log (by norm_num : 1 < 10) (x := exponent) positive
  rw [Nat.cast_ofNat] at logarithm
  exact logarithm.symm

theorem log_lt_iff (positive : 0 < number) :
    Int.log 10 number < exponent ↔ number < (10 : Number) ^ exponent := by
  rw [← not_le, le_log_iff positive, not_le]

theorem pow_pos (exponent : Int) : 0 < (10 : Number) ^ exponent :=
  zpow_pos (by norm_num) exponent

theorem pow_le_pow (ordered : low ≤ high) :
    (10 : Number) ^ low ≤ 10 ^ high :=
  zpow_le_zpow_right₀ (by norm_num) ordered

end Powers

namespace Context

variable {context : Context}
variable {number : Number} {exponent : Int}

theorem lastPlace_pos : 0 < context.lastPlace number :=
  pow_pos _

theorem roundedMagnitude_nonneg : 0 ≤ context.roundedMagnitude number := by
  apply mul_nonneg _ (le_of_lt lastPlace_pos)
  have whole : 0 ≤ roundHalfEven (|number| / context.lastPlace number) := by
    apply le_roundHalfEven
    rw [Int.cast_zero]
    exact div_nonneg (abs_nonneg _) (le_of_lt lastPlace_pos)
  exact Int.cast_nonneg whole

theorem abs_rounded :
    |context.rounded number| = context.roundedMagnitude number := by
  unfold rounded
  split
  · rw [abs_neg, abs_of_nonneg roundedMagnitude_nonneg]
  · exact abs_of_nonneg roundedMagnitude_nonneg

/-- A size is rounded to the size of the rounded number. -/
theorem rounded_abs : context.rounded |number| = |context.rounded number| := by
  rw [abs_rounded, rounded, if_neg (not_lt.mpr (abs_nonneg number))]
  simp only [roundedMagnitude, lastPlace, lastExponent, abs_abs]

theorem rounded_nonneg (nonneg : 0 ≤ number) :
    0 ≤ context.rounded number := by
  rw [rounded, if_neg (not_lt.mpr nonneg)]
  exact roundedMagnitude_nonneg

@[simp] theorem rounded_zero : context.rounded (0 : Number) = 0 := by
  have whole : roundHalfEven (((0 : Int) : Number)) = 0 :=
    roundHalfEven_intCast 0
  rw [Int.cast_zero] at whole
  rw [rounded, if_neg (lt_irrefl 0), roundedMagnitude, abs_zero, zero_div,
    whole, Int.cast_zero, zero_mul]

theorem rounded_nonpos (nonpos : number ≤ 0) :
    context.rounded number ≤ 0 := by
  rcases lt_or_eq_of_le nonpos with negative | zero
  · rw [rounded, if_pos negative]
    exact neg_nonpos.mpr roundedMagnitude_nonneg
  · rw [zero, rounded_zero]

/-- Only a positive number is rounded to a positive one. -/
theorem pos_of_rounded_pos (reached : 0 < context.rounded number) :
    0 < number := by
  by_contra empty
  exact absurd reached (not_lt.mpr (rounded_nonpos (not_lt.mp empty)))

/-- A power of ten of at least the last place is not crossed from below. -/
theorem roundedMagnitude_le_pow
    (kept : context.lastExponent number ≤ exponent)
    (below : |number| ≤ (10 : Number) ^ exponent) :
    context.roundedMagnitude number ≤ 10 ^ exponent := by
  rw [pow_eq_mul_pow kept] at below ⊢
  apply mul_le_mul_of_nonneg_right _ (le_of_lt lastPlace_pos)
  apply Int.cast_le.mpr
  exact roundHalfEven_le ((div_le_iff₀ lastPlace_pos).mpr below)

/-- A power of ten of at least the last place is not crossed from above. -/
theorem pow_le_roundedMagnitude
    (kept : context.lastExponent number ≤ exponent)
    (above : (10 : Number) ^ exponent ≤ |number|) :
    10 ^ exponent ≤ context.roundedMagnitude number := by
  rw [pow_eq_mul_pow kept] at above ⊢
  apply mul_le_mul_of_nonneg_right _ (le_of_lt lastPlace_pos)
  apply Int.cast_le.mpr
  exact le_roundHalfEven ((le_div_iff₀ lastPlace_pos).mpr above)

/-- No digit is kept below `Etiny`, and none beyond the precision. -/
theorem lastExponent_le
    (nonzero : number ≠ 0)
    (reaches : context.etiny ≤ exponent)
    (below : |number| < (10 : Number) ^ (exponent + context.precision)) :
    context.lastExponent number ≤ exponent := by
  have logarithm := (log_lt_iff (abs_pos.mpr nonzero)).mpr below
  apply max_le _ reaches
  omega

/-- Rounding does not cross a power of ten from below. -/
theorem abs_rounded_le_pow
    (reaches : context.etiny ≤ exponent)
    (below : |number| ≤ (10 : Number) ^ exponent) :
    |context.rounded number| ≤ 10 ^ exponent := by
  by_cases zero : number = 0
  · rw [zero, rounded_zero, abs_zero]
    exact le_of_lt (pow_pos exponent)
  · have positive := context.precisionPositive
    rw [abs_rounded]
    apply roundedMagnitude_le_pow _ below
    apply lastExponent_le zero reaches
    apply lt_of_le_of_lt below
    exact zpow_lt_zpow_right₀ (by norm_num) (by omega)

/-- Rounding does not cross a power of ten from above. -/
theorem pow_le_abs_rounded
    (reaches : context.etiny ≤ exponent)
    (above : (10 : Number) ^ exponent ≤ |number|) :
    10 ^ exponent ≤ |context.rounded number| := by
  have positive := context.precisionPositive
  have magnitudePos : 0 < |number| := lt_of_lt_of_le (pow_pos exponent) above
  have logarithm := (le_log_iff magnitudePos).mpr above
  rw [abs_rounded]
  apply le_trans (pow_le_pow logarithm)
  apply pow_le_roundedMagnitude
  · exact max_le (by omega) (le_trans reaches logarithm)
  · exact (le_log_iff magnitudePos).mp le_rfl

/-- A number of a few digits above `Etiny` is kept as it is. -/
theorem rounded_of_digits
    {digits : Int}
    (reaches : context.etiny ≤ exponent)
    (short : |digits| < 10 ^ context.precision)
    (shape : number = digits * (10 : Number) ^ exponent) :
    context.rounded number = number := by
  by_cases zero : number = 0
  · rw [zero, rounded_zero]
  · have magnitude :
        |number| = ((|digits| : Int) : Number) * 10 ^ exponent := by
      have positive : (0 : Number) < 10 ^ exponent := pow_pos exponent
      rw [shape, abs_mul, Int.cast_abs, abs_of_pos positive]
    have ten : (10 : Number) ≠ 0 := by norm_num
    have below : |number| < (10 : Number) ^ (exponent + context.precision) := by
      rw [magnitude, add_comm, zpow_add₀ ten, zpow_natCast]
      apply mul_lt_mul_of_pos_right _ (pow_pos exponent)
      exact_mod_cast short
    have kept := lastExponent_le zero reaches below
    have placeNonzero : context.lastPlace number ≠ 0 :=
      ne_of_gt lastPlace_pos
    have whole :
        |number| / context.lastPlace number =
          ((|digits| * 10 ^ (exponent - context.lastExponent number).toNat :
            Int) : Number) := by
      have scaled :
          (10 : Number) ^ exponent =
            ((10 ^ (exponent - context.lastExponent number).toNat : Int) :
              Number) * context.lastPlace number := pow_eq_mul_pow kept
      rw [magnitude, scaled, ← mul_assoc, mul_div_cancel_right₀ _ placeNonzero,
        Int.cast_mul]
    have same : context.roundedMagnitude number = |number| := by
      rw [roundedMagnitude, whole, roundHalfEven_intCast, ← whole,
        div_mul_cancel₀ _ placeNonzero]
    rw [rounded, same]
    split
    · next negative => rw [abs_of_neg negative, neg_neg]
    · next nonneg => exact abs_of_nonneg (not_lt.mp nonneg)

/-- A number is no more than the full digits of its last place. -/
theorem abs_le_digits (nonzero : number ≠ 0) :
    |number| ≤
      ((10 ^ context.precision : Int) : Number) *
        context.lastPlace number := by
  have ten : (10 : Number) ≠ 0 := by norm_num
  have logarithm :
      Int.log 10 |number| <
        context.precision + context.lastExponent number := by
    have kept :
        Int.log 10 |number| - (context.precision - 1) ≤
          context.lastExponent number := le_max_left _ _
    omega
  rw [Int.cast_pow, Int.cast_ofNat, lastPlace, ← zpow_natCast,
    ← zpow_add₀ ten]
  exact le_of_lt ((log_lt_iff (abs_pos.mpr nonzero)).mp logarithm)

/-- A rounded number has no more digits than the context keeps. -/
theorem exists_digits (context : Context) (number : Number) :
    ∃ (digits exponent : Int),
      context.etiny ≤ exponent ∧ |digits| < 10 ^ context.precision ∧
        context.rounded number = digits * (10 : Number) ^ exponent := by
  by_cases zero : number = 0
  · refine ⟨0, context.etiny, le_rfl, ?_, ?_⟩
    · rw [abs_zero]
      exact Int.pow_pos (by norm_num)
    · rw [zero, rounded_zero, Int.cast_zero, zero_mul]
  · have reaches : context.etiny ≤ context.lastExponent number :=
      le_max_right _ _
    have atMost :
        roundHalfEven (|number| / context.lastPlace number) ≤
          10 ^ context.precision :=
      roundHalfEven_le
        ((div_le_iff₀ lastPlace_pos).mpr (abs_le_digits zero))
    have nonneg :
        0 ≤ roundHalfEven (|number| / context.lastPlace number) := by
      apply le_roundHalfEven
      rw [Int.cast_zero]
      exact div_nonneg (abs_nonneg _) (le_of_lt lastPlace_pos)
    rcases lt_or_eq_of_le atMost with fewer | carried
    · obtain ⟨digits, short, shape⟩ :=
        exists_digits_of_magnitude (by rw [abs_of_nonneg nonneg]; exact fewer)
          rfl
      exact ⟨digits, _, reaches, short, shape⟩
    · obtain ⟨magnitude, shortMagnitude, isMagnitude⟩ :=
        roundedMagnitude_carried carried
      obtain ⟨digits, short, shape⟩ :=
        exists_digits_of_magnitude shortMagnitude isMagnitude
      exact ⟨digits, _, le_trans reaches (by omega), short, shape⟩

/-- Rounding twice is rounding once. -/
theorem rounded_rounded :
    context.rounded (context.rounded number) = context.rounded number := by
  obtain ⟨digits, exponent, reaches, short, shape⟩ :=
    exists_digits context number
  exact rounded_of_digits reaches short shape

/--
A rounded number reaches a power of ten exactly if the number comes within
half a digit of it.
-/
theorem pow_le_abs_rounded_iff
    (reaches : context.etiny ≤ exponent - context.precision) :
    (10 : Number) ^ exponent ≤ |context.rounded number| ↔
      (10 : Number) ^ exponent -
          1 / 2 * 10 ^ (exponent - context.precision) ≤ |number| := by
  have positive := context.precisionPositive
  have halfDigit :
      (0 : Number) < 1 / 2 * 10 ^ (exponent - context.precision) :=
    mul_pos (by norm_num) (pow_pos _)
  rcases le_or_gt ((10 : Number) ^ exponent) |number| with above | below
  · refine iff_of_true (pow_le_abs_rounded (by omega) above) ?_
    linarith
  · rcases le_or_gt ((10 : Number) ^ (exponent - 1)) |number|
      with near | far
    · -- The digits of the number end where the power has its half digit.
      have magnitudePos := lt_of_lt_of_le (pow_pos (exponent - 1)) near
      have logarithm : Int.log 10 |number| = exponent - 1 := by
        apply le_antisymm
        · exact Int.le_sub_one_of_lt ((log_lt_iff magnitudePos).mpr below)
        · exact (le_log_iff magnitudePos).mpr near
      have lastDigit :
          context.lastExponent number = exponent - context.precision := by
        rw [lastExponent, logarithm]
        exact (max_eq_left (by omega)).trans (by omega)
      have ten : (10 : Number) ≠ 0 := by norm_num
      have scaled :
          (10 : Number) ^ exponent =
            ((10 ^ context.precision : Int) : Number) *
              context.lastPlace number := by
        rw [lastPlace, lastDigit, Int.cast_pow, Int.cast_ofNat,
          ← zpow_natCast, ← zpow_add₀ ten]
        congr 1
        omega
      have even : (10 ^ context.precision : Int) % 2 = 0 := by
        obtain ⟨rest, precisionShape⟩ :=
          Nat.exists_eq_succ_of_ne_zero (Nat.pos_iff_ne_zero.mp positive)
        rw [precisionShape, pow_succ]
        omega
      have place : (10 : Number) ^ (exponent - context.precision) =
          context.lastPlace number := by
        rw [lastPlace, lastDigit]
      rw [abs_rounded, roundedMagnitude, place, scaled, ← sub_mul,
        mul_le_mul_iff_left₀ lastPlace_pos, Int.cast_le,
        even_le_roundHalfEven_iff even, le_div_iff₀ lastPlace_pos]
    · refine iff_of_false (not_le.mpr ?_) (not_le.mpr ?_)
      · apply lt_of_le_of_lt
          (abs_rounded_le_pow (by omega) (le_of_lt far))
        exact zpow_lt_zpow_right₀ (by norm_num) (by omega)
      · have digitBelow :
            (10 : Number) ^ (exponent - context.precision) ≤
              10 ^ (exponent - 1) := pow_le_pow (by omega)
        have ten : (10 : Number) ≠ 0 := by norm_num
        have next : (10 : Number) ^ exponent = 10 * 10 ^ (exponent - 1) := by
          rw [mul_comm, ← zpow_add_one₀ ten]
          congr 1
          omega
        rw [next]
        linarith

/-- Rounding raises a magnitude by less than a factor of ten. -/
theorem abs_rounded_le_ten_mul
    (above : (10 : Number) ^ context.etiny ≤ |number|) :
    |context.rounded number| ≤ 10 * |number| := by
  have ten : (10 : Number) ≠ 0 := by norm_num
  have magnitudePos := lt_of_lt_of_le (pow_pos context.etiny) above
  have reaches := (le_log_iff magnitudePos).mpr above
  have leading := (le_log_iff magnitudePos).mp le_rfl
  have next :
      |number| ≤ (10 : Number) ^ (Int.log 10 |number| + 1) :=
    le_of_lt ((log_lt_iff magnitudePos).mp (Int.lt_succ _))
  apply le_trans (abs_rounded_le_pow (by omega) next)
  rw [zpow_add_one₀ ten, mul_comm]
  exact mul_le_mul_of_nonneg_left leading (by norm_num)

/-- An operation within the exponent range gives its rounded result. -/
theorem finalize_of_le
    (reaches : context.etiny ≤ exponent)
    (inRange : exponent ≤ context.emax)
    (below : |number| ≤ (10 : Number) ^ exponent) :
    context.finalize number = .ok (context.rounded number) := by
  apply if_neg
  rw [not_le]
  apply lt_of_le_of_lt (abs_rounded_le_pow reaches below)
  exact zpow_lt_zpow_right₀ (by norm_num) (by omega)

section Quantize

variable (exponentInRange :
  context.etiny ≤ exponent ∧ exponent + context.precision ≤ context.emax + 1)

include exponentInRange

/-- A number whose digits fit is quantized. -/
theorem quantize_of_lt
    (fits : |number| < (10 : Number) ^ (exponent + context.precision)) :
    context.quantize exponent number =
      .ok (quantizeDown ((10 : Number) ^ exponent) number) := by
  have positive := context.precisionPositive
  rw [quantize, if_neg (by omega), if_neg, if_neg]
  · rw [not_le]
    apply lt_of_le_of_lt (abs_quantizeDown_le (pow_pos exponent))
    exact lt_of_lt_of_le fits (pow_le_pow exponentInRange.2)
  · intro tooLong
    have logarithm := (log_lt_iff (abs_pos.mpr tooLong.1)).mpr fits
    omega

/-- A number with more digits than the precision is not quantized. -/
theorem quantize_of_le
    (tooLong : (10 : Number) ^ (exponent + context.precision) ≤ |number|) :
    context.quantize exponent number = .error .invalidOperation := by
  have positive := context.precisionPositive
  have magnitudePos := lt_of_lt_of_le (pow_pos _) tooLong
  have logarithm := (le_log_iff magnitudePos).mpr tooLong
  rw [quantize, if_neg (by omega), if_pos]
  exact ⟨abs_pos.mp magnitudePos, by omega⟩

end Quantize

end Context

end DecimalContext
