import SafeSignalTrader.DecimalGrid
import SafeSignalTrader.DomainModels

/-!
# Decimal arithmetic

The operations of `Decimal` as the engines and the adapter use them: over
exact arithmetic, or in a context that rounds and may raise.  The code runs in
the default context of the `decimal` module.
-/

namespace SafeSignalTrader

open DecimalContext DecimalRounding

/-- The operations of `Decimal`; quantizing is under `ROUND_DOWN`. -/
structure DecimalArithmetic where
  add : Decimal → Decimal → Except DecimalSignal Decimal
  subtract : Decimal → Decimal → Except DecimalSignal Decimal
  multiply : Decimal → Decimal → Except DecimalSignal Decimal
  divide : Decimal → Decimal → Except DecimalSignal Decimal
  divideInt : Decimal → Decimal → Except DecimalSignal Decimal
  quantize : (exponent : Int) → Decimal → Except DecimalSignal Decimal

namespace DecimalArithmetic

/-- Arithmetic of unlimited precision. -/
def exact : DecimalArithmetic where
  add first second := .ok (first + second)
  subtract first second := .ok (first - second)
  multiply first second := .ok (first * second)
  divide number divisor := .ok (number / divisor)
  divideInt number divisor := .ok (floorDiv number divisor)
  quantize exponent number := .ok (quantizeDown (10 ^ exponent) number)

/-- The arithmetic of a context. -/
def inContext (context : Context) : DecimalArithmetic where
  add first second := context.finalize (first + second)
  subtract first second := context.finalize (first - second)
  multiply first second := context.finalize (first * second)
  divide := context.divide
  divideInt := context.divideInt
  quantize := context.quantize

end DecimalArithmetic

/-- The default context: 28 digits, exponents up to 999999. -/
def defaultContext : Context where
  precision := 28
  emin := -999999
  emax := 999999
  precisionPositive := by decide

/-- The default context as an arithmetic. -/
def contextArithmetic : DecimalArithmetic :=
  .inContext defaultContext

/-- A number that the default context rounds without overflow. -/
def InRange (number : Decimal) : Prop :=
  |defaultContext.rounded number| < 10 ^ (defaultContext.emax + 1)

/-- A computed result of the default context is the rounded exact one. -/
theorem finalize_eq_ok_iff {number result : Decimal} :
    defaultContext.finalize number = .ok result ↔
      InRange number ∧ defaultContext.rounded number = result :=
  Context.finalize_eq_ok_iff

/-- A result of few places and digits is exact. -/
theorem finalize_exact
    {number : Decimal}
    {places : Nat}
    (few : places ≤ 28)
    (shape : ∃ units : Int, number = units / 10 ^ places)
    (inRange : |number| * 10 ^ places < 10 ^ 28) :
    defaultContext.finalize number = .ok number := by
  obtain ⟨units, rfl⟩ := shape
  have tens : (0 : Decimal) < 10 ^ places := by positivity
  have short : |units| < 10 ^ defaultContext.precision := by
    rw [abs_div, abs_of_pos tens, div_mul_cancel₀ _ (ne_of_gt tens)]
      at inRange
    exact_mod_cast inRange
  have reaches : defaultContext.etiny ≤ -(places : Int) := by
    have tiny : defaultContext.etiny ≤ -28 := by decide
    omega
  have below : |(units : Decimal) / 10 ^ places| ≤ 10 ^ (28 : Int) := by
    have oneLe : (1 : Decimal) ≤ 10 ^ places := one_le_pow₀ (by norm_num)
    calc
      |(units : Decimal) / 10 ^ places| ≤
          |(units : Decimal) / 10 ^ places| * 10 ^ places :=
        le_mul_of_one_le_right (abs_nonneg _) oneLe
      _ ≤ 10 ^ (28 : Int) := by exact_mod_cast le_of_lt inRange
  rw [Context.finalize_of_le (by decide : defaultContext.etiny ≤ 28)
    (by decide) below, Context.rounded_of_units reaches short]

/-- What the default context quantizes is rounded toward zero. -/
theorem eq_of_quantize_eq_ok
    {exponent : Int}
    {number result : Decimal}
    (quantized : contextArithmetic.quantize exponent number = .ok result) :
    result = quantizeDown (10 ^ exponent) number :=
  @Context.quantize_eq_ok _ _ _ _ defaultContext _ _ _ quantized

/-- A quotient the default context truncates has at most 28 digits. -/
theorem eq_of_divideInt_eq_ok
    {number divisor result : Decimal}
    (divided : contextArithmetic.divideInt number divisor = .ok result) :
    result = floorDiv number divisor ∧
      |floorDiv number divisor| < 10 ^ defaultContext.precision :=
  @Context.divideInt_eq_ok _ _ _ _ defaultContext _ _ _ divided

end SafeSignalTrader
