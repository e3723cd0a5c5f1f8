import SafeSignalTrader.DecimalAgreement
import SafeSignalTrader.DecimalOrder
import SafeSignalTrader.MockDecimalFills

/-!
# Rounding errors of fills

An operation of the default context whose exact value is within a bound of few
digits stays within it and misses the value by half of the last digit of the
bound at most.  The errors of averaging an entry price and of booking a result
add up from these.
-/

namespace SafeSignalTrader

open DecimalContext

/-- A bound of few places and digits, which no rounding crosses. -/
structure ShortBound (bound : Decimal) : Prop where
  shape : ∃ places ≤ 28, (∃ units : Int, bound = units / 10 ^ places) ∧
    |bound| * 10 ^ places < 10 ^ 28

/-- A result of rounding a number within a bound. -/
structure RoundsWithin (bound number result : Decimal) : Prop where
  inRange : |result| ≤ bound
  near : |result - number| ≤ bound / (2 * 10 ^ 27)
  nonneg : 0 ≤ number → 0 ≤ result

section Bounds

variable {bound number amount price : Decimal}

theorem PlainAmount.shortBound
    (plain : PlainAmount (10 ^ 19) amount) :
    ShortBound amount := by
  refine ⟨8, by decide, plain.places, ?_⟩
  calc
    |amount| * 10 ^ 8 ≤ 10 ^ 19 * 10 ^ 8 :=
      mul_le_mul_of_nonneg_right plain.inRange (by norm_num)
    _ < 10 ^ 28 := by norm_num

/-- The worth of an amount at a price is a bound of sixteen places. -/
theorem ShortBound.mul
    (first : EightPlaces amount)
    (second : EightPlaces price)
    (inRange : |amount * price| ≤ 10 ^ 11) :
    ShortBound (amount * price) := by
  refine ⟨16, by decide, ?_, ?_⟩
  · obtain ⟨amountUnits, rfl⟩ := first
    obtain ⟨priceUnits, rfl⟩ := second
    exact ⟨amountUnits * priceUnits, by push_cast; ring⟩
  · calc
      |amount * price| * 10 ^ 16 ≤ 10 ^ 11 * 10 ^ 16 :=
        mul_le_mul_of_nonneg_right inRange (by norm_num)
      _ < 10 ^ 28 := by norm_num

/-- An operation whose exact value is within a short bound. -/
theorem ShortBound.finalize
    (short : ShortBound bound)
    (below : |number| ≤ bound) :
    ∃ result, defaultContext.finalize number = .ok result ∧
      RoundsWithin bound number result := by
  obtain ⟨places, few, shape, inRange⟩ := short.shape
  obtain ⟨inExponents, kept⟩ :=
    Context.finalize_eq_ok_iff.mp (finalize_exact few shape inRange)
  have boundNonneg : 0 ≤ bound := le_trans (abs_nonneg _) below
  have rounded := Context.abs_rounded_le_of_kept kept below
  rw [kept, abs_of_nonneg boundNonneg] at inExponents
  refine ⟨defaultContext.rounded number,
    Context.finalize_eq_ok_iff.mpr ⟨lt_of_le_of_lt rounded inExponents, rfl⟩,
    rounded, ?_, Context.rounded_nonneg⟩
  rcases eq_or_lt_of_le boundNonneg with zero | positive
  · rw [← zero, abs_nonpos_iff] at below
    rw [below, Context.rounded_zero, sub_zero, abs_zero]
    positivity
  · have normal : (10 : Decimal) ^ defaultContext.emin ≤ bound := by
      obtain ⟨units, rfl⟩ := shape
      have tens : (0 : Decimal) < 10 ^ places := by positivity
      have unitsPos : 0 < units := by
        exact_mod_cast (div_pos_iff_of_pos_right tens).mp positive
      have oneLe : (1 : Decimal) ≤ units := by
        exact_mod_cast unitsPos
      have tiny : defaultContext.emin ≤ -(places : Int) := by
        have least : defaultContext.emin ≤ -28 := by decide
        omega
      calc
        (10 : Decimal) ^ defaultContext.emin ≤ 10 ^ (-(places : Int)) :=
          pow_le_pow tiny
        _ = 1 / 10 ^ places := by rw [zpow_neg, zpow_natCast, one_div]
        _ ≤ units / 10 ^ places :=
          div_le_div_of_nonneg_right oneLe (le_of_lt tens)
    rw [le_div_iff₀ (by norm_num)]
    exact Context.abs_rounded_sub_mul_le_of_le normal below

end Bounds

/-- How far an entry price drifts in a number of fills below a ceiling. -/
def drift (ceiling : Decimal) (fills : Nat) : Decimal :=
  2 * fills * ceiling / 10 ^ 27

section Drift

variable {ceiling near held added actual exactly price : Decimal}

/-- The average of a position and a fill drifts by three roundings. -/
theorem averaged_near
    {oldNotional addNotional total entry : Decimal}
    (heldPositive : 0 < held)
    (addedPositive : 0 < added)
    (ceilingNonneg : 0 ≤ ceiling)
    (close : |actual - exactly| ≤ near)
    (oldRounds :
      RoundsWithin (held * ceiling) (held * actual) oldNotional)
    (addRounds :
      RoundsWithin (added * ceiling) (added * price) addNotional)
    (totalRounds :
      RoundsWithin ((held + added) * ceiling) (oldNotional + addNotional)
        total)
    (entryRounds :
      RoundsWithin ceiling (total / (held + added)) entry) :
    |entry - (held * exactly + added * price) / (held + added)| ≤
      near + 2 * ceiling / 10 ^ 27 := by
  have size : 0 < held + added := add_pos heldPositive addedPositive
  have nearNonneg : 0 ≤ near := le_trans (abs_nonneg _) close
  have costNear :
      |total - (held * exactly + added * price)| ≤
        (near + ceiling / 10 ^ 27) * (held + added) := by
    have oldNear := abs_le.mp oldRounds.near
    have addNear := abs_le.mp addRounds.near
    have totalNear := abs_le.mp totalRounds.near
    have heldNear : |held * (actual - exactly)| ≤ held * near := by
      rw [abs_mul, abs_of_pos heldPositive]
      exact mul_le_mul_of_nonneg_left close (le_of_lt heldPositive)
    have heldBounds := abs_le.mp heldNear
    have addedDrift : 0 ≤ added * near :=
      mul_nonneg (le_of_lt addedPositive) nearNonneg
    rw [abs_le]
    constructor <;> linarith
  have shared :
      total / (held + added) -
          (held * exactly + added * price) / (held + added) =
        (total - (held * exactly + added * price)) / (held + added) :=
    (sub_div _ _ _).symm
  have quotientNear :
      |total / (held + added) -
          (held * exactly + added * price) / (held + added)| ≤
        near + ceiling / 10 ^ 27 := by
    rw [shared, abs_div, abs_of_pos size, div_le_iff₀ size]
    exact costNear
  have quotientBounds := abs_le.mp quotientNear
  have entryNear := abs_le.mp entryRounds.near
  rw [abs_le]
  constructor <;> linarith

/-- The result that closing a position books drifts by three roundings. -/
theorem booked_near
    {amount closed realized exactRealized move pnl booked : Decimal}
    (ceilingNonneg : 0 ≤ ceiling)
    (closedNonneg : 0 ≤ closed)
    (close : |actual - exactly| ≤ near)
    (realizedClose : |realized - exactRealized| ≤ closed * near)
    (moveRounds : RoundsWithin ceiling (price - actual) move)
    (pnlRounds : RoundsWithin (|amount| * ceiling) (move * amount) pnl)
    (bookedRounds :
      RoundsWithin ((closed + |amount|) * ceiling) (realized + pnl)
        booked) :
    |booked - (exactRealized + (price - exactly) * amount)| ≤
      (closed + |amount|) * (near + 2 * ceiling / 10 ^ 27) := by
  have moveNear :
      |(move - (price - actual)) * amount| ≤
        ceiling / (2 * 10 ^ 27) * |amount| := by
    rw [abs_mul]
    exact mul_le_mul_of_nonneg_right moveRounds.near (abs_nonneg _)
  have entryNear : |(actual - exactly) * amount| ≤ near * |amount| := by
    rw [abs_mul]
    exact mul_le_mul_of_nonneg_right close (abs_nonneg _)
  have moveBounds := abs_le.mp moveNear
  have entryBounds := abs_le.mp entryNear
  have pnlNear := abs_le.mp pnlRounds.near
  have bookedNear := abs_le.mp bookedRounds.near
  have realizedBounds := abs_le.mp realizedClose
  have closedWorth : 0 ≤ closed * ceiling :=
    mul_nonneg closedNonneg ceilingNonneg
  have amountWorth : 0 ≤ |amount| * ceiling :=
    mul_nonneg (abs_nonneg _) ceilingNonneg
  rw [abs_le]
  constructor <;> linarith

end Drift

theorem drift_succ (ceiling : Decimal) (fills : Nat) :
    drift ceiling (fills + 1) =
      drift ceiling fills + 2 * ceiling / 10 ^ 27 := by
  unfold drift
  push_cast
  ring

theorem EightPlaces.abs
    {amount : Decimal}
    (plain : EightPlaces amount) :
    EightPlaces |amount| := by
  rcases abs_choice amount with same | opposite
  · rw [same]
    exact plain
  · obtain ⟨units, rfl⟩ := plain
    rw [opposite]
    exact ⟨-units, by push_cast; ring⟩

section Signs

variable {amount : Decimal}

theorem PlainAmount.neg
    {limit : Decimal}
    (plain : PlainAmount limit amount) :
    PlainAmount limit (-amount) where
  places := by
    obtain ⟨units, isUnits⟩ := plain.places
    exact ⟨-units, by rw [isUnits]; push_cast; ring⟩
  inRange := by
    rw [abs_neg]
    exact plain.inRange

theorem negate_plain (plain : PlainAmount (10 ^ 19) amount) :
    contextArithmetic.negate amount = .ok (-amount) := by
  change defaultContext.finalize (0 - amount) = _
  rw [zero_sub]
  exact plain.neg.finalize le_rfl

theorem magnitude_plain (plain : PlainAmount (10 ^ 19) amount) :
    contextArithmetic.magnitude amount = .ok |amount| := by
  unfold DecimalArithmetic.magnitude
  split
  · next negative =>
      rw [abs_of_neg negative]
      exact negate_plain plain
  · next nonneg =>
      rw [abs_of_nonneg (not_lt.mp nonneg)]
      change defaultContext.finalize (0 + amount) = _
      rw [zero_add]
      exact plain.finalize le_rfl

theorem signedWith_plain
    (side : OrderSide)
    (plain : PlainAmount (10 ^ 19) amount) :
    side.signedWith contextArithmetic amount = .ok (side.signed amount) := by
  cases side with
  | buy => rfl
  | sell => exact negate_plain plain

/-- An amount at a price up to the ceiling is worth no more than there. -/
theorem worth_le
    {price ceiling : Decimal}
    (nonneg : 0 ≤ amount)
    (priceNonneg : 0 ≤ price)
    (priceInRange : price ≤ ceiling) :
    |amount * price| ≤ amount * ceiling := by
  rw [abs_of_nonneg (mul_nonneg nonneg priceNonneg)]
  exact mul_le_mul_of_nonneg_left priceInRange nonneg

/-- Amounts of one sign add up in size. -/
theorem abs_add_of_sameDirection
    {first second : Decimal}
    (sameDirection :
      (0 < first ∧ 0 < second) ∨ (first < 0 ∧ second < 0)) :
    0 < |first| ∧ 0 < |second| ∧ |first + second| = |first| + |second| := by
  rcases sameDirection with ⟨firstPos, secondPos⟩ | ⟨firstNeg, secondNeg⟩
  · refine ⟨abs_pos_of_pos firstPos, abs_pos_of_pos secondPos, ?_⟩
    rw [abs_of_pos firstPos, abs_of_pos secondPos,
      abs_of_pos (add_pos firstPos secondPos)]
  · refine ⟨abs_pos_of_neg firstNeg, abs_pos_of_neg secondNeg, ?_⟩
    rw [abs_of_neg firstNeg, abs_of_neg secondNeg,
      abs_of_neg (add_neg firstNeg secondNeg), neg_add]

theorem OrderSide.plain_of_signed
    {limit : Decimal}
    (side : OrderSide)
    (plain : PlainAmount limit (side.signed amount)) :
    PlainAmount limit amount := by
  cases side with
  | buy => exact plain
  | sell =>
      rw [← neg_neg amount]
      exact plain.neg

end Signs

end SafeSignalTrader
