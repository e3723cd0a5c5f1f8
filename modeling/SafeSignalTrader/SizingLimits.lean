import SafeSignalTrader.RiskSizing
import SafeSignalTrader.SignalAnalysis

/-!
# Digit limits of sizing

In the default decimal context an analysis raises exactly if the quantity its
budget buys has more than 20 integral digits, or the notional cap leaves the
exponent range.  Every later step stays within its limits.
-/

namespace SafeSignalTrader

open DecimalContext DecimalRounding

namespace RiskEngine

/-- The loss budget times the leverage to 28 digits. -/
def roundedNotional
    (signal : NormalizedSignal)
    (snapshot : EffectiveConfigSnapshot) : Decimal :=
  defaultContext.rounded
    (lossBudget snapshot * (ladder signal snapshot : Decimal))

/--
The budget that is sized: the notional, or a lower cap, or that cap rounded up
to 28 digits if there is anything left of it.
-/
inductive BudgetLeft
    (maxNotionalUsdt : Option Decimal)
    (notional : Decimal) : Decimal → Prop where
  | uncapped
      (within : ∀ cap, maxNotionalUsdt = some cap → notional ≤ cap) :
      BudgetLeft maxNotionalUsdt notional notional
  | capped
      {cap : Decimal}
      (capSet : maxNotionalUsdt = some cap)
      (capBinds : cap < notional)
      (inRange : |defaultContext.rounded cap| < 10 ^ (defaultContext.emax + 1))
      (notRaised : defaultContext.rounded cap ≤ cap) :
      BudgetLeft maxNotionalUsdt notional cap
  | raised
      {cap : Decimal}
      (capSet : maxNotionalUsdt = some cap)
      (capBinds : cap < notional)
      (inRange : |defaultContext.rounded cap| < 10 ^ (defaultContext.emax + 1))
      (roundedUp : cap < defaultContext.rounded cap)
      (positive : 0 < defaultContext.rounded cap) :
      BudgetLeft maxNotionalUsdt notional (defaultContext.rounded cap)

/-- A lower cap beyond the exponent range. -/
structure CapOverflows
    (maxNotionalUsdt : Option Decimal)
    (notional cap : Decimal) : Prop where
  capSet : maxNotionalUsdt = some cap
  capBinds : cap < notional
  overflows : 10 ^ (defaultContext.emax + 1) ≤ |defaultContext.rounded cap|

section Remainder

variable {snapshot : EffectiveConfigSnapshot}
variable {notional cap budget : Decimal}

theorem add_zero_eq (number : Decimal) :
    contextArithmetic.add 0 number = defaultContext.finalize number := by
  change defaultContext.finalize (0 + number) = _
  rw [zero_add]

theorem subtract_zero_eq (number : Decimal) :
    contextArithmetic.subtract number 0 =
      defaultContext.finalize number := by
  change defaultContext.finalize (number - 0) = _
  rw [sub_zero]

theorem quantize_eq (exponent : Int) (number : Decimal) :
    contextArithmetic.quantize exponent number =
      defaultContext.quantize exponent number :=
  rfl

/-- The exponent range of the default context. -/
theorem finalize_eq
    {number : Decimal}
    (inRange : |defaultContext.rounded number| < 10 ^ (defaultContext.emax + 1)) :
    defaultContext.finalize number =
      .ok (defaultContext.rounded number) :=
  Context.finalize_eq_ok_iff.mpr ⟨inRange, rfl⟩

theorem exposureRemainderWith_of_overflow
    (overflow : CapOverflows snapshot.maxNotionalUsdt notional cap) :
    exposureRemainderWith contextArithmetic snapshot 0
        (underCap snapshot notional) =
      .error .overflow := by
  have raised : defaultContext.finalize cap = .error .overflow :=
    if_pos overflow.overflows
  simp only [exposureRemainderWith, underCap, overflow.capSet,
    min_eq_right (le_of_lt overflow.capBinds), add_zero_eq, raised]
  rfl

/-- A budget that is left is handed on, whatever the rounding of the cap. -/
theorem exposureRemainderWith_of_budgetLeft
    (alreadyRounded : defaultContext.rounded notional = notional)
    (inRange : |notional| < 10 ^ (defaultContext.emax + 1))
    (left : BudgetLeft snapshot.maxNotionalUsdt notional budget) :
    exposureRemainderWith contextArithmetic snapshot 0
        (underCap snapshot notional) =
      .ok (some budget) := by
  cases left with
  | uncapped within =>
      cases capSet : snapshot.maxNotionalUsdt with
      | none =>
          simp only [exposureRemainderWith, underCap, capSet]
          rfl
      | some cap =>
          have below := within cap capSet
          have total : defaultContext.finalize notional = .ok notional := by
            rw [finalize_eq (by rw [alreadyRounded]; exact inRange),
              alreadyRounded]
          simp only [exposureRemainderWith, underCap, capSet,
            min_eq_left below, add_zero_eq, total, bind, Except.bind,
            if_neg (not_lt.mpr below)]
          rfl
  | capped capSet capBinds capInRange notRaised =>
      simp only [exposureRemainderWith, underCap, capSet,
        min_eq_right (le_of_lt capBinds), add_zero_eq,
        finalize_eq capInRange, bind, Except.bind,
        if_neg (not_lt.mpr notRaised)]
      rfl
  | raised capSet capBinds capInRange roundedUp positive =>
      simp only [exposureRemainderWith, underCap, capSet,
        min_eq_right (le_of_lt capBinds), add_zero_eq, subtract_zero_eq,
        finalize_eq capInRange, bind, Except.bind, if_pos roundedUp,
        if_neg (not_le.mpr positive)]
      rfl

/-- A cap overflows, nothing is left, or a budget is left. -/
theorem exposureRemainderWith_cases
    (snapshot : EffectiveConfigSnapshot)
    (notional : Decimal) :
    (∃ cap, CapOverflows snapshot.maxNotionalUsdt notional cap) ∨
      exposureRemainderWith contextArithmetic snapshot 0
          (underCap snapshot notional) = .ok none ∨
        ∃ budget,
          BudgetLeft snapshot.maxNotionalUsdt notional budget := by
  by_cases binds : ∃ cap,
      snapshot.maxNotionalUsdt = some cap ∧ cap < notional
  · obtain ⟨cap, capSet, capBinds⟩ := binds
    rcases le_or_gt ((10 : Decimal) ^ (defaultContext.emax + 1))
        |defaultContext.rounded cap| with overflows | inRange
    · exact Or.inl ⟨cap, capSet, capBinds, overflows⟩
    · rcases le_or_gt (defaultContext.rounded cap) cap with
        notRaised | roundedUp
      · exact Or.inr (Or.inr
          ⟨cap, .capped capSet capBinds inRange notRaised⟩)
      · rcases le_or_gt (defaultContext.rounded cap) 0 with
          exhausted | positive
        · refine Or.inr (Or.inl ?_)
          simp only [exposureRemainderWith, underCap, capSet,
            min_eq_right (le_of_lt capBinds), add_zero_eq,
            subtract_zero_eq, finalize_eq inRange, bind, Except.bind,
            if_pos roundedUp, if_pos exhausted]
          rfl
        · exact Or.inr (Or.inr
            ⟨_, .raised capSet capBinds inRange roundedUp positive⟩)
  · push Not at binds
    exact Or.inr (Or.inr ⟨notional, .uncapped binds⟩)

/-- No budget is above a power of ten that bounds the notional. -/
theorem BudgetLeft.le_pow
    {exponent : Int}
    (reaches : defaultContext.etiny ≤ exponent)
    (below : notional ≤ (10 : Decimal) ^ exponent)
    (left : BudgetLeft snapshot.maxNotionalUsdt notional budget) :
    budget ≤ 10 ^ exponent := by
  cases left with
  | uncapped => exact below
  | capped _ capBinds =>
      exact le_trans (le_of_lt capBinds) below
  | @raised cap _ capBinds =>
      rcases le_or_gt 0 cap with nonneg | negative
      · apply le_trans (le_abs_self _)
        apply Context.abs_rounded_le_pow reaches
        rw [abs_of_nonneg nonneg]
        exact le_trans (le_of_lt capBinds) below
      · exact le_trans (Context.rounded_nonpos (le_of_lt negative))
          (le_of_lt (pow_pos exponent))

end Remainder

section Quantity

variable {budget price rawQty : Decimal}

/-- A quantity with more than 20 integral digits. -/
def LongQuantity (budget price : Decimal) : Prop :=
  (10 ^ 20 - 1 / 200000000) * price ≤ |budget|

/-- The quotient is rounded to 21 integral digits exactly if it is long. -/
theorem longQuantity_iff (pricePositive : 0 < price) :
    (10 : Decimal) ^ (20 : Int) ≤ |defaultContext.rounded (budget / price)| ↔
      LongQuantity budget price := by
  have threshold :
      (10 : Decimal) ^ (20 : Int) -
          1 / 2 * 10 ^ ((20 : Int) - defaultContext.precision) =
        10 ^ 20 - 1 / 200000000 := by
    norm_num [defaultContext]
  rw [Context.pow_le_abs_rounded_iff (by decide), threshold, abs_div,
    abs_of_pos pricePositive, le_div_iff₀ pricePositive]
  rfl

/-- Sizing by a long quantity raises. -/
theorem sizeAtPriceWith_of_long
    {symbolRules : Option SymbolRules}
    {leverage : Nat}
    {maxLoss : Decimal}
    (pricePositive : 0 < price)
    (long : LongQuantity budget price) :
    ∃ signalled,
      sizeAtPriceWith contextArithmetic symbolRules leverage maxLoss budget
        price = .error signalled := by
  have divided :
      contextArithmetic.divide budget price =
        defaultContext.finalize (budget / price) :=
    if_neg (ne_of_gt pricePositive)
  unfold sizeAtPriceWith
  rw [divided]
  unfold Context.finalize
  split
  · exact ⟨_, rfl⟩
  · have tooLong :
        defaultContext.quantize (-8)
            (defaultContext.rounded (budget / price)) =
          .error .invalidOperation :=
      Context.quantize_of_le (by decide)
        ((longQuantity_iff pricePositive).mpr long)
    simp only [bind, Except.bind, quantize_eq, tooLong]
    exact ⟨_, rfl⟩

/-- Rounding does not reach a lot step from a tenth of it. -/
theorem le_ten_mul_of_rounded
    {number : Decimal}
    (reached : 1 / 1000 ≤ defaultContext.rounded number) :
    1 / 10000 < number ∧ defaultContext.rounded number ≤ 10 * number := by
  have roundedNonneg : 0 ≤ defaultContext.rounded number :=
    le_trans (by norm_num) reached
  have fourPlaces : (10 : Decimal) ^ (-4 : Int) = 1 / 10000 := by norm_num
  have numberNonneg : 0 ≤ number := by
    by_contra negative
    have nonpos : defaultContext.rounded number ≤ 0 :=
      Context.rounded_nonpos (le_of_lt (not_le.mp negative))
    linarith
  have large : 1 / 10000 < number := by
    by_contra small
    have below : |number| ≤ (10 : Decimal) ^ (-4 : Int) := by
      rw [abs_of_nonneg numberNonneg, fourPlaces]
      exact not_lt.mp small
    have roundedBelow :
        |defaultContext.rounded number| ≤ (10 : Decimal) ^ (-4 : Int) :=
      Context.abs_rounded_le_pow (by decide) below
    rw [abs_of_nonneg roundedNonneg, fourPlaces] at roundedBelow
    linarith
  refine ⟨large, ?_⟩
  have above :
      (10 : Decimal) ^ defaultContext.etiny ≤ |number| := by
    rw [abs_of_nonneg numberNonneg]
    apply le_trans (pow_le_pow (by decide : defaultContext.etiny ≤ -4))
    rw [fourPlaces]
    exact le_of_lt large
  have factor := Context.abs_rounded_le_ten_mul above
  rw [abs_of_nonneg roundedNonneg, abs_of_nonneg numberNonneg] at factor
  exact factor

/-- Lots of a thousandth of a quantity that is not long have 28 digits. -/
theorem abs_floorDiv_lt
    {qty : Decimal}
    (short : |qty| < 10 ^ (20 : Int)) :
    |floorDiv qty (1 / 1000)| < 10 ^ defaultContext.precision := by
  have stepPositive : (0 : Decimal) < 1 / 1000 := by norm_num
  have scaled :
      ((|floorDiv qty (1 / 1000)| : Int) : Decimal) * (1 / 1000) <
        10 ^ (20 : Int) := by
    rw [Int.cast_abs, ← abs_of_pos stepPositive, ← abs_mul,
      abs_of_pos stepPositive]
    exact lt_of_le_of_lt (abs_quantizeDown_le stepPositive) short
  have few :
      ((|floorDiv qty (1 / 1000)| : Int) : Decimal) <
        ((10 ^ 28 : Int) : Decimal) := by
    norm_num at scaled ⊢
    linarith
  exact Int.cast_lt.mp few

/-- The default rules floor to a thousandth, and lift an empty lot. -/
theorem lotQuantityWith_default_eq
    {symbol : String}
    {qty : Decimal}
    (short : |qty| < 10 ^ (20 : Int)) :
    lotQuantityWith contextArithmetic (.default symbol) rawQty qty =
      if defaultContext.rounded (quantizeDown (1 / 1000) qty) ≤ 0 ∧
          1 / 1000 ≤ rawQty then
        .ok (1 / 1000)
      else
        .ok (defaultContext.rounded (quantizeDown (1 / 1000) qty)) := by
  have stepPositive : (0 : Decimal) < 1 / 1000 := by norm_num
  have divided :
      contextArithmetic.divideInt qty (1 / 1000) =
        .ok (floorDiv qty (1 / 1000) : Decimal) :=
    Context.divideInt_of_lt (ne_of_gt stepPositive) (abs_floorDiv_lt short)
  have flooredLe :
      |quantizeDown (1 / 1000) qty| ≤ (10 : Decimal) ^ (20 : Int) :=
    le_trans (abs_quantizeDown_le stepPositive) (le_of_lt short)
  have multiplied :
      contextArithmetic.multiply (floorDiv qty (1 / 1000) : Decimal)
          (1 / 1000) =
        .ok (defaultContext.rounded (quantizeDown (1 / 1000) qty)) :=
    Context.finalize_of_le (by decide : defaultContext.etiny ≤ 20)
      (by decide) flooredLe
  simp only [lotQuantityWith, SymbolRules.default, if_pos stepPositive,
    divided, multiplied, bind, Except.bind, pure, Except.pure]
  rfl

/-- A floored lot of a step is no more than ten times its raw quantity. -/
theorem flooredLot_le
    {qty : Decimal}
    (quantized : qty = quantizeDown (10 ^ (-8 : Int)) rawQty)
    (reached :
      1 / 1000 ≤ defaultContext.rounded (quantizeDown (1 / 1000) qty)) :
    1 / 1000 ≤ rawQty ∧
      defaultContext.rounded (quantizeDown (1 / 1000) qty) ≤
        10 * rawQty := by
  have stepPositive : (0 : Decimal) < 1 / 1000 := by norm_num
  have tick : (0 : Decimal) < 10 ^ (-8 : Int) := pow_pos _
  obtain ⟨nonempty, factor⟩ := le_ten_mul_of_rounded reached
  have qtyPositive : 0 < qty :=
    pos_of_quantizeDown_pos stepPositive (by linarith)
  have rawPositive : 0 < rawQty :=
    pos_of_quantizeDown_pos tick (by rwa [← quantized])
  have oneStep : 1 / 1000 ≤ quantizeDown (1 / 1000) qty :=
    quantum_le_quantizeDown stepPositive (by linarith)
  have below : quantizeDown (1 / 1000) qty ≤ rawQty := by
    calc
      quantizeDown (1 / 1000) qty ≤ |quantizeDown (1 / 1000) qty| :=
        le_abs_self _
      _ ≤ |qty| := abs_quantizeDown_le stepPositive
      _ ≤ |rawQty| := by
        rw [quantized]
        exact abs_quantizeDown_le tick
      _ = rawQty := abs_of_pos rawPositive
  exact ⟨le_trans oneStep below, by linarith⟩

/-- Under the default rules a lot is found, and is no longer than its raw. -/
theorem lotQuantityWith_default
    {symbol : String}
    {qty : Decimal}
    (short : |rawQty| < 10 ^ (20 : Int))
    (quantized : qty = quantizeDown (10 ^ (-8 : Int)) rawQty) :
    ∃ lot,
      lotQuantityWith contextArithmetic (.default symbol) rawQty qty =
          .ok lot ∧
        (1 / 1000 ≤ lot → 1 / 1000 ≤ rawQty ∧ lot ≤ 10 * rawQty) := by
  have shortQty : |qty| < 10 ^ (20 : Int) := by
    rw [quantized]
    exact lt_of_le_of_lt (abs_quantizeDown_le (pow_pos _)) short
  rw [lotQuantityWith_default_eq shortQty]
  split
  · next lifted =>
      refine ⟨_, rfl, fun _ => ⟨lifted.2, ?_⟩⟩
      have reached := lifted.2
      linarith
  · exact ⟨_, rfl, flooredLot_le quantized⟩

/-- The checks of an affordable lot return, and refuse a lot below a step. -/
theorem checkUnderRulesWith_default
    {symbol : String}
    {leverage : Nat}
    {maxLoss notional lot : Decimal}
    (pricePositive : 0 < price)
    (affordable : 1 / 1000 ≤ lot → lot * price ≤ 10 ^ (11 : Int)) :
    ∃ decision,
      checkUnderRulesWith contextArithmetic (.default symbol) leverage
          maxLoss notional price lot = .ok decision ∧
        (EntryPlanner.approvedQuantity? decision ≠ none →
          1 / 1000 ≤ lot) := by
  by_cases below : lot < 1 / 1000
  · have refused :
        checkUnderRulesWith contextArithmetic (.default symbol) leverage
            maxLoss notional price lot =
          .ok {
            allowed := false
            reason := .qtyBelowMin lot (1 / 1000)
            leverage := leverage
            notionalUsdt := notional
            quantity := some lot
            maxLossUsdt := some maxLoss } := if_pos below
    refine ⟨_, refused, ?_⟩
    intro approved
    exact absurd rfl approved
  · have reached : 1 / 1000 ≤ lot := not_lt.mp below
    have lotPositive : 0 < lot := lt_of_lt_of_le (by norm_num) reached
    have magnitude : |lot * price| ≤ (10 : Decimal) ^ (11 : Int) := by
      rw [abs_of_pos (mul_pos lotPositive pricePositive)]
      exact affordable reached
    have multiplied :
        contextArithmetic.multiply lot price =
          .ok (defaultContext.rounded (lot * price)) :=
      Context.finalize_of_le (by decide : defaultContext.etiny ≤ 11)
        (by decide) magnitude
    have worthLe :
        |defaultContext.rounded (lot * price)| ≤ (10 : Decimal) ^ (11 : Int) :=
      Context.abs_rounded_le_pow (by decide) magnitude
    have quantized :
        contextArithmetic.quantize (-2)
            (defaultContext.rounded (lot * price)) =
          .ok (quantizeDown (10 ^ (-2 : Int))
            (defaultContext.rounded (lot * price))) := by
      rw [quantize_eq]
      apply Context.quantize_of_lt (by decide)
      exact lt_of_le_of_lt worthLe
        (zpow_lt_zpow_right₀ (by norm_num) (by decide))
    have notBelow : ¬ lot < (SymbolRules.default symbol).minQty := below
    simp only [checkUnderRulesWith, if_neg notBelow, multiplied, quantized,
      bind, Except.bind]
    split
    · exact ⟨_, rfl, fun _ => reached⟩
    · exact ⟨_, rfl, fun _ => reached⟩

/-- A lot no more than ten times the rounded quotient is worth under 10^11. -/
theorem lot_affordable
    {lot : Decimal}
    (pricePositive : 0 < price)
    (budgetLe : budget ≤ 10 ^ (9 : Int))
    (rawReached : 1 / 1000 ≤ defaultContext.rounded (budget / price))
    (lotLe : lot ≤ 10 * defaultContext.rounded (budget / price)) :
    lot * price ≤ 10 ^ (11 : Int) := by
  have rawLe := (le_ten_mul_of_rounded rawReached).2
  have affordable : lot ≤ 100 * (budget / price) := by linarith
  calc
    lot * price ≤ 100 * (budget / price) * price :=
      mul_le_mul_of_nonneg_right affordable (le_of_lt pricePositive)
    _ = 100 * budget := by
      rw [mul_assoc, div_mul_cancel₀ _ (ne_of_gt pricePositive)]
    _ ≤ 10 ^ (11 : Int) := by
      norm_num at budgetLe ⊢
      linarith

/-- Sizing by a quantity that is not long returns. -/
theorem sizeAtPriceWith_of_short
    {symbol : String}
    {leverage : Nat}
    {maxLoss : Decimal}
    (pricePositive : 0 < price)
    (budgetLe : budget ≤ 10 ^ (9 : Int))
    (short : ¬ LongQuantity budget price) :
    ∃ decision,
      sizeAtPriceWith contextArithmetic (some (.default symbol)) leverage
          maxLoss budget price = .ok decision ∧
        (EntryPlanner.approvedQuantity? decision ≠ none →
          price ≤ 10 ^ (14 : Int)) := by
  rw [← longQuantity_iff pricePositive, not_le] at short
  have inRange :
      |defaultContext.rounded (budget / price)| <
        10 ^ (defaultContext.emax + 1) :=
    lt_trans short (zpow_lt_zpow_right₀ (by norm_num) (by decide))
  have divided :
      contextArithmetic.divide budget price =
        .ok (defaultContext.rounded (budget / price)) := by
    rw [← finalize_eq inRange]
    exact if_neg (ne_of_gt pricePositive)
  have quantized :
      contextArithmetic.quantize (-8)
          (defaultContext.rounded (budget / price)) =
        .ok (quantizeDown (10 ^ (-8 : Int))
          (defaultContext.rounded (budget / price))) := by
    rw [quantize_eq]
    exact Context.quantize_of_lt (by decide) short
  obtain ⟨lot, found, shortLot⟩ :=
    @lotQuantityWith_default _ symbol _ short rfl
  have worth : 1 / 1000 ≤ lot → lot * price ≤ 10 ^ (11 : Int) :=
    fun reached =>
      lot_affordable pricePositive budgetLe (shortLot reached).1
        (shortLot reached).2
  obtain ⟨decision, checked, approvedLot⟩ :=
    @checkUnderRulesWith_default price symbol leverage maxLoss budget lot
      pricePositive worth
  refine ⟨decision, ?_, ?_⟩
  · unfold sizeAtPriceWith
    simp only [divided, quantized, found, bind, Except.bind]
    exact checked
  · intro approved
    have reached := approvedLot approved
    have bounded := le_trans
      (mul_le_mul_of_nonneg_right reached (le_of_lt pricePositive))
      (worth reached)
    norm_num at bounded ⊢
    linarith

end Quantity

/--
The inputs on which sizing raises: under a free slot the cap overflows, or the
budget that is left buys a long quantity at the price.
-/
inductive DigitLimitReached
    (signal : NormalizedSignal)
    (snapshot : EffectiveConfigSnapshot)
    (openPositionCount maxOpenPositions : Int)
    (price : Decimal) : Prop where
  | cap
      {cap : Decimal}
      (slotFree : openPositionCount < maxOpenPositions)
      (overflows :
        CapOverflows snapshot.maxNotionalUsdt
          (roundedNotional signal snapshot) cap)
  | quantity
      {budget : Decimal}
      (slotFree : openPositionCount < maxOpenPositions)
      (left :
        BudgetLeft snapshot.maxNotionalUsdt
          (roundedNotional signal snapshot) budget)
      (pricePositive : 0 < price)
      (long : LongQuantity budget price)

section Evaluation

variable {signal : NormalizedSignal}
variable {snapshot : EffectiveConfigSnapshot}
variable {openPositionCount maxOpenPositions : Int}
variable {loss price : Decimal}

/-- The loss budget times the leverage stays far below the digit limit. -/
theorem notional_le_pow
    (lossSet : snapshot.maxLossUsdt = some loss)
    (lossPositive : 0 < loss)
    (lossLe : loss ≤ 10 ^ 6) :
    |lossBudget snapshot * (ladder signal snapshot : Decimal)| ≤
      10 ^ (9 : Int) := by
  have ladderLe : ladder signal snapshot ≤ 125 :=
    le_trans (min_le_right _ _) snapshot.maxLeverageInRange.2
  have ladderCast : (ladder signal snapshot : Decimal) ≤ 125 := by
    exact_mod_cast ladderLe
  have nonneg : (0 : Decimal) ≤ (ladder signal snapshot : Decimal) :=
    Nat.cast_nonneg _
  rw [lossBudget_of_ne_zero lossSet (ne_of_gt lossPositive),
    abs_of_nonneg (mul_nonneg (le_of_lt lossPositive) nonneg)]
  calc
    loss * (ladder signal snapshot : Decimal) ≤ 10 ^ 6 * 125 :=
      mul_le_mul lossLe ladderCast nonneg (by norm_num)
    _ ≤ 10 ^ (9 : Int) := by norm_num

/-- The notional is computed, and computing with it does not change it. -/
theorem roundedNotional_spec
    (lossSet : snapshot.maxLossUsdt = some loss)
    (lossPositive : 0 < loss)
    (lossLe : loss ≤ 10 ^ 6) :
    contextArithmetic.multiply (lossBudget snapshot)
          (ladder signal snapshot) =
        .ok (roundedNotional signal snapshot) ∧
      defaultContext.rounded (roundedNotional signal snapshot) =
          roundedNotional signal snapshot ∧
        |roundedNotional signal snapshot| ≤ 10 ^ (9 : Int) := by
  have below := @notional_le_pow signal _ _ lossSet lossPositive lossLe
  refine ⟨?_, Context.rounded_rounded, ?_⟩
  · exact Context.finalize_of_le (by decide : defaultContext.etiny ≤ 9)
      (by decide) below
  · exact Context.abs_rounded_le_pow (by decide) below

/-- At a digit limit the evaluation raises. -/
theorem evaluateWith_of_limit
    (lossSet : snapshot.maxLossUsdt = some loss)
    (lossPositive : 0 < loss)
    (lossLe : loss ≤ 10 ^ 6)
    (priceNonzero : price ≠ 0)
    (reached : DigitLimitReached signal snapshot openPositionCount
      maxOpenPositions price) :
    ∃ signalled,
      evaluateWith contextArithmetic signal snapshot
          (some (.default signal.symbol)) 0 openPositionCount
          maxOpenPositions (some price) = .error signalled := by
  obtain ⟨multiplied, alreadyRounded, below⟩ :=
    @roundedNotional_spec signal _ _ lossSet lossPositive lossLe
  cases reached with
  | cap slotFree overflows =>
      have raised := exposureRemainderWith_of_overflow overflows
      simp only [evaluateWith, if_neg (not_le.mpr slotFree), multiplied,
        raised, bind, Except.bind]
      exact ⟨_, rfl⟩
  | quantity slotFree left pricePositive long =>
      have inRange :
          |roundedNotional signal snapshot| <
            10 ^ (defaultContext.emax + 1) :=
        lt_of_le_of_lt below
          (zpow_lt_zpow_right₀ (by norm_num) (by decide))
      have remainder :=
        exposureRemainderWith_of_budgetLeft alreadyRounded inRange left
      have priced :
          orDecimal (some price) signal.entryPrice = some price :=
        if_neg priceNonzero
      simp only [evaluateWith, if_neg (not_le.mpr slotFree), multiplied,
        remainder, bind, Except.bind, priced, if_pos pricePositive]
      exact sizeAtPriceWith_of_long pricePositive long

/-- Within the digit limits the evaluation returns. -/
theorem evaluateWith_of_within
    (lossSet : snapshot.maxLossUsdt = some loss)
    (lossPositive : 0 < loss)
    (lossLe : loss ≤ 10 ^ 6)
    (priceNonzero : price ≠ 0)
    (within : ¬ DigitLimitReached signal snapshot openPositionCount
      maxOpenPositions price) :
    ∃ decision,
      evaluateWith contextArithmetic signal snapshot
          (some (.default signal.symbol)) 0 openPositionCount
          maxOpenPositions (some price) = .ok decision ∧
        (EntryPlanner.approvedQuantity? decision ≠ none →
          |price| ≤ 10 ^ (14 : Int)) := by
  obtain ⟨multiplied, alreadyRounded, below⟩ :=
    @roundedNotional_spec signal _ _ lossSet lossPositive lossLe
  by_cases full : maxOpenPositions ≤ openPositionCount
  · simp only [evaluateWith, if_pos full]
    refine ⟨_, rfl, ?_⟩
    intro approved
    exact absurd rfl approved
  · have slotFree := not_le.mp full
    have inRange :
        |roundedNotional signal snapshot| <
          10 ^ (defaultContext.emax + 1) :=
      lt_of_le_of_lt below
        (zpow_lt_zpow_right₀ (by norm_num) (by decide))
    simp only [evaluateWith, if_neg full, multiplied, bind, Except.bind]
    rcases exposureRemainderWith_cases snapshot
        (roundedNotional signal snapshot) with
      ⟨cap, overflows⟩ | exhausted | ⟨budget, left⟩
    · exact absurd (.cap slotFree overflows) within
    · simp only [exhausted]
      refine ⟨_, rfl, ?_⟩
      intro approved
      exact absurd rfl approved
    · have remainder :=
        exposureRemainderWith_of_budgetLeft alreadyRounded inRange left
      have budgetLe :=
        left.le_pow (by decide) (le_trans (le_abs_self _) below)
      have priced :
          orDecimal (some price) signal.entryPrice = some price :=
        if_neg priceNonzero
      simp only [remainder, priced]
      by_cases pricePositive : 0 < price
      · simp only [if_pos pricePositive]
        rw [abs_of_pos pricePositive]
        exact sizeAtPriceWith_of_short pricePositive budgetLe
          (fun long => within (.quantity slotFree left pricePositive long))
      · simp only [if_neg pricePositive]
        refine ⟨_, rfl, ?_⟩
        intro approved
        refine absurd ?_ approved
        rw [EntryPlanner.approvedQuantity?, conclude_none_quantity]

end Evaluation

end RiskEngine

namespace EntryPlanner

/-- The bound of a price in range is computed. -/
theorem bound_returns
    {price factor : Decimal}
    (priceLe : |price| ≤ 10 ^ (14 : Int))
    (factorLe : |factor| ≤ 10) :
    ∃ bound, contextArithmetic.multiply price factor = .ok bound := by
  refine ⟨_, Context.finalize_of_le
    (by decide : defaultContext.etiny ≤ 15) (by decide) ?_⟩
  rw [abs_mul]
  calc
    |price| * |factor| ≤ 10 ^ (14 : Int) * 10 :=
      mul_le_mul priceLe factorLe (abs_nonneg _) (le_of_lt (pow_pos _))
    _ = 10 ^ (15 : Int) := by norm_num

/-- The bound of a checked entry in range is computed. -/
theorem lateEntryReason_returns
    {Reason : Type}
    {signal : NormalizedSignal}
    {markPrice : Option Decimal}
    (inRange :
      ∀ price, signal.entryPrice = some price → |price| ≤ 10 ^ (14 : Int)) :
    ∃ reason,
      @lateEntryReason Reason contextArithmetic signal markPrice =
        .ok reason := by
  by_cases checked : ∃ mark price, IsChecked signal markPrice mark price
  · obtain ⟨mark, price, checked⟩ := checked
    have factorLe : |gateFactor signal.side| ≤ 10 := by
      cases signal.side with
      | long => norm_num [gateFactor]
      | short => norm_num [gateFactor]
    obtain ⟨bound, multiplied⟩ :=
      bound_returns (inRange price checked.priced) factorLe
    rw [lateEntryReason_of_checked checked, multiplied]
    exact ⟨_, rfl⟩
  · push Not at checked
    exact ⟨none, lateEntryReason_of_unchecked checked⟩

/-- Planning returns unless the bound of an approved entry is out of range. -/
theorem plan_returns
    {Reason : Type}
    {tradeId : UUID}
    {signal : NormalizedSignal}
    {snapshot : EffectiveConfigSnapshot}
    {risk : RiskDecision Reason}
    {markPrice : Option Decimal}
    (inRange :
      approvedQuantity? risk ≠ none →
        ∀ price, signal.entryPrice = some price →
          |price| ≤ 10 ^ (14 : Int)) :
    ∃ planned,
      plan contextArithmetic tradeId signal snapshot risk 0 markPrice =
        .ok planned := by
  have termsReturn :
      ∃ terms,
        entryTerms contextArithmetic signal risk markPrice = .ok terms := by
    unfold entryTerms
    cases approved : approvedQuantity? risk with
    | none => exact ⟨_, rfl⟩
    | some quantity =>
        obtain ⟨reason, checked⟩ :=
          @lateEntryReason_returns Reason signal markPrice
            (inRange (by simp [approved]))
        dsimp only
        split
        · exact ⟨_, rfl⟩
        · rw [checked]
          cases reason with
          | none => exact ⟨_, rfl⟩
          | some late => exact ⟨_, rfl⟩
  obtain ⟨terms, found⟩ := termsReturn
  exact ⟨_, plan_eq_ok_iff.mpr ⟨terms, found, by decide, rfl⟩⟩

end EntryPlanner

open RiskEngine

/-- Without an override the entry price is the reference, unless it is zero. -/
theorem referencePrice_cases
    {body : RiskRequest}
    {signal : NormalizedSignal}
    (noOverride : body.markPrice = none) :
    referencePrice body signal ≠ 0 ∧
      ∀ price, signal.entryPrice = some price →
        price = 0 ∨ price = referencePrice body signal := by
  unfold referencePrice
  rw [noOverride]
  cases signal.entryPrice with
  | none => exact ⟨by decide +kernel, by simp⟩
  | some price =>
      by_cases zero : price = 0
      · subst zero
        refine ⟨by decide +kernel, ?_⟩
        intro other same
        exact Or.inl (Option.some.inj same).symm
      · have isReference :
            (orDecimal (orDecimal none (some price)) (some 65000)).getD
                65000 = price := by
          simp [orDecimal, zero]
        rw [isReference]
        refine ⟨zero, ?_⟩
        intro other same
        exact Or.inr (Option.some.inj same).symm

section Analysis

variable {body : RiskRequest}
variable {signal : NormalizedSignal}
variable {snapshot : EffectiveConfigSnapshot}
variable {maxOpenPositions : Nat}
variable {loss : Decimal}

/-- At a digit limit the engines raise. -/
theorem decisionsOn_of_limit
    (tradeId : UUID)
    (noOverride : body.markPrice = none)
    (lossSet : snapshot.maxLossUsdt = some loss)
    (lossPositive : 0 < loss)
    (lossLe : loss ≤ 10 ^ 6)
    (reached : DigitLimitReached signal snapshot body.openPositions
      maxOpenPositions (referencePrice body signal)) :
    ∃ signalled,
      decisionsOn tradeId contextArithmetic body signal snapshot
        maxOpenPositions = .error (.decimal signalled) := by
  obtain ⟨signalled, raised⟩ :=
    evaluateWith_of_limit lossSet lossPositive lossLe
      (referencePrice_cases noOverride).1 reached
  refine ⟨signalled, ?_⟩
  simp only [decisionsOn, raised, Except.mapError, bind, Except.bind]

/-- Within the digit limits the engines return. -/
theorem decisionsOn_of_within
    (tradeId : UUID)
    (noOverride : body.markPrice = none)
    (lossSet : snapshot.maxLossUsdt = some loss)
    (lossPositive : 0 < loss)
    (lossLe : loss ≤ 10 ^ 6)
    (within : ¬ DigitLimitReached signal snapshot body.openPositions
      maxOpenPositions (referencePrice body signal)) :
    ∃ decisions,
      decisionsOn tradeId contextArithmetic body signal snapshot
        maxOpenPositions = .ok decisions := by
  obtain ⟨priceNonzero, entryPrice⟩ :=
    @referencePrice_cases body signal noOverride
  obtain ⟨risk, evaluated, bounded⟩ :=
    evaluateWith_of_within lossSet lossPositive lossLe priceNonzero within
  have inRange :
      EntryPlanner.approvedQuantity? risk ≠ none →
        ∀ price, signal.entryPrice = some price →
          |price| ≤ 10 ^ (14 : Int) := by
    intro approved price priced
    rcases entryPrice price priced with zero | isReference
    · rw [zero, abs_zero]
      exact le_of_lt (pow_pos _)
    · rw [isReference]
      exact bounded approved
  obtain ⟨planned, plans⟩ :=
    @EntryPlanner.plan_returns _ tradeId signal snapshot risk
      (some (referencePrice body signal)) inRange
  simp only [decisionsOn, evaluated, Except.mapError, plans, bind,
    Except.bind]
  exact ⟨_, rfl⟩

end Analysis

/--
In the default context the engines return as the analysis of a signal calls
them exactly if sizing does not reach a digit limit.
-/
theorem sizingReturns_iff
    (tradeId : UUID)
    (body : RiskRequest)
    (signal : NormalizedSignal)
    (snapshot : EffectiveConfigSnapshot)
    (maxOpenPositions : Nat)
    (loss : Decimal)
    (noOverride : body.markPrice = none)
    (lossSet : snapshot.maxLossUsdt = some loss)
    (lossPositive : 0 < loss)
    (lossLe : loss ≤ 10 ^ 6) :
    (∃ decisions,
        decisionsOn tradeId contextArithmetic body signal snapshot
          maxOpenPositions = .ok decisions) ↔
      ¬ DigitLimitReached signal snapshot body.openPositions
          maxOpenPositions (referencePrice body signal) := by
  constructor
  · intro returns reached
    obtain ⟨decisions, returned⟩ := returns
    obtain ⟨signalled, raised⟩ :=
      decisionsOn_of_limit tradeId noOverride lossSet lossPositive
        lossLe reached
    rw [raised] at returned
    cases returned
  · exact decisionsOn_of_within tradeId noOverride lossSet lossPositive
      lossLe

/-- Under a cap that is not negative a price of 10^-10 is within the limits. -/
theorem not_digitLimitReached
    {signal : NormalizedSignal}
    {snapshot : EffectiveConfigSnapshot}
    {openPositionCount maxOpenPositions : Int}
    {loss price : Decimal}
    (lossSet : snapshot.maxLossUsdt = some loss)
    (lossPositive : 0 < loss)
    (lossLe : loss ≤ 10 ^ 6)
    (capNonneg : ∀ cap, snapshot.maxNotionalUsdt = some cap → 0 ≤ cap)
    (priceLarge : 1 / 10 ^ 10 ≤ price) :
    ¬ DigitLimitReached signal snapshot openPositionCount maxOpenPositions
        price := by
  have below :=
    (@roundedNotional_spec signal _ _ lossSet lossPositive lossLe).2.2
  have notionalLe := le_trans (le_abs_self _) below
  have notionalNonneg : 0 ≤ roundedNotional signal snapshot := by
    apply Context.rounded_nonneg
    rw [lossBudget_of_ne_zero lossSet (ne_of_gt lossPositive)]
    exact mul_nonneg (le_of_lt lossPositive) (Nat.cast_nonneg _)
  intro reached
  cases reached with
  | @cap cap slotFree overflows =>
      have small : |cap| ≤ (10 : Decimal) ^ (9 : Int) := by
        rw [abs_of_nonneg (capNonneg cap overflows.capSet)]
        exact le_trans (le_of_lt overflows.capBinds) notionalLe
      have rounded :
          |defaultContext.rounded cap| ≤ (10 : Decimal) ^ (9 : Int) :=
        Context.abs_rounded_le_pow (by decide) small
      exact absurd overflows.overflows (not_le.mpr (lt_of_le_of_lt rounded
        (zpow_lt_zpow_right₀ (by norm_num) (by decide))))
  | @quantity budget slotFree left pricePositive long =>
      have budgetLe := left.le_pow (by decide) notionalLe
      have budgetNonneg : 0 ≤ budget := by
        cases left with
        | uncapped => exact notionalNonneg
        | capped capSet => exact capNonneg _ capSet
        | raised _ _ _ _ positive => exact le_of_lt positive
      rw [LongQuantity, abs_of_nonneg budgetNonneg] at long
      norm_num at budgetLe priceLarge long
      linarith

/-- The default entry of a long BTCUSDT signal is within the limits. -/
theorem sizingReturns_default :
    ∃ decisions,
      decisionsOn 7 contextArithmetic
        { text := "SIGNAL LONG BTCUSDT"
          sourceId := "src_demo_alpha"
          profileId := "profile_default"
          markPrice := none
          openPositions := 0
          textLength := by decide }
        (.default 1 "src_demo_alpha" "generic_structured" "1.0.0" "BTCUSDT"
          .long)
        { EffectiveConfigSnapshot.default "src_demo_alpha" "acc_demo_1"
            "profile_default" "1.0.0" with maxLossUsdt := some 10 }
        3 = .ok decisions :=
  (sizingReturns_iff 7 _ _ _ 3 10 rfl rfl (by norm_num) (by norm_num)).mpr
    (not_digitLimitReached rfl (by norm_num) (by norm_num)
      (fun cap capSet => by cases capSet) (by decide +kernel))

/-- The endpoints over the example source and the default profile. -/
def tinyPriceState : DemoState where
  sources := .buildExampleRegistry
  parsers :=
    GenericStructuredParser.buildDefaultRegistry
      (fun _ => "e5095f9cc20c4930a5589bb049f66908") 1
  profiles := .buildDefaultProfiles
  msgCounter := 0

/-- A request whose entry price is 10^-20. -/
def tinyPriceRequest : RiskRequest where
  text := "SIGNAL LONG BTCUSDT\nENTRY 0.00000000000000000001"
  sourceId := "src_demo_alpha"
  profileId := "profile_default"
  markPrice := none
  openPositions := 0
  textLength := by decide

/-- The snapshot of the default profile. -/
def tinyPriceSnapshot : EffectiveConfigSnapshot :=
  buildSnapshot (fun _ => "532d9fa8cc9864aff7d3f739375e1c6e")
    PythonText.fractionText SourceRegistry.exampleSource
    ProfileRegistry.defaultProfile

/-- A budget of 10 buys a long quantity at a price of 10^-20. -/
theorem tinyPrice_reachesLimit
    {signal : NormalizedSignal}
    (priced : signal.entryPrice = some (1 / 10 ^ 20))
    (unleveraged : signal.leverage = none) :
    DigitLimitReached signal tinyPriceSnapshot
      tinyPriceRequest.openPositions
      ProfileRegistry.defaultProfile.maxOpenPositions
      (referencePrice tinyPriceRequest signal) := by
  have reference : referencePrice tinyPriceRequest signal = 1 / 10 ^ 20 := by
    rw [referencePrice, priced]
    decide +kernel
  have budget :
      lossBudget tinyPriceSnapshot *
          (ladder signal tinyPriceSnapshot : Decimal) =
        (10 : Int) * (10 : Decimal) ^ (0 : Int) := by
    rw [ladder, unleveraged]
    decide +kernel
  have notional : roundedNotional signal tinyPriceSnapshot = 10 := by
    rw [roundedNotional,
      Context.rounded_of_digits (by decide) (by decide) budget, budget]
    norm_num
  rw [reference]
  refine .quantity (by decide) ?_ (by norm_num)
    (by decide +kernel : (10 ^ 20 - 1 / 200000000) * (1 / 10 ^ 20) ≤
      |(10 : Decimal)|)
  rw [← notional]
  refine .uncapped ?_
  intro cap capSet
  rw [notional]
  cases capSet
  decide +kernel

/-- The entry price 10^-20 is parsed, and sizing raises. -/
theorem tinyPrice_raises :
    ¬ ∀ (computeHash : String → String)
        (str : PyException → String)
        (digest : String → String)
        (render : Decimal → String)
        (tradeId : UUID)
        (state : DemoState)
        (body : RiskRequest)
        (output : PipelineOutput NormalizedSignal)
        (signal : NormalizedSignal)
        (source : SourceConfig)
        (profile : TradingProfile),
      body.markPrice = none →
      readRequest computeHash str state body = .ok output →
      output.result.outcome = .parsed →
      output.signal = some signal →
      state.sources.get body.sourceId = some source →
      state.profiles.get body.profileId = some profile →
      0 < profile.maxLossUsdt →
      profile.maxLossUsdt ≤ 10 ^ 6 →
      ∃ decisions,
        decisionsOn tradeId contextArithmetic body signal
          (buildSnapshot digest render source profile)
          profile.maxOpenPositions = .ok decisions := by
  intro returns
  have parsed :
      readsSignal
        (readRequest (fun _ => "e5095f9cc20c4930a5589bb049f66908")
          (fun _ => "") tinyPriceState tinyPriceRequest)
        (fun output signal =>
          decide (output.result.outcome = .parsed ∧
            signal.entryPrice = some (1 / 10 ^ 20) ∧
            signal.leverage = none)) = true := by
    decide +kernel
  obtain ⟨output, signal, reading, found, checked⟩ :=
    exists_of_readsSignal parsed
  obtain ⟨outcome, priced, unleveraged⟩ := of_decide_eq_true checked
  obtain ⟨signalled, raised⟩ :=
    decisionsOn_of_limit 7 rfl
      (rfl : tinyPriceSnapshot.maxLossUsdt = some 10)
      (by decide +kernel) (by decide +kernel)
      (tinyPrice_reachesLimit priced unleveraged)
  obtain ⟨decisions, returned⟩ :=
    returns (fun _ => "e5095f9cc20c4930a5589bb049f66908")
      (fun _ => "") (fun _ => "532d9fa8cc9864aff7d3f739375e1c6e")
      PythonText.fractionText 7 tinyPriceState tinyPriceRequest
      output signal SourceRegistry.exampleSource
      ProfileRegistry.defaultProfile rfl reading outcome found rfl
      rfl (by decide +kernel) (by decide +kernel)
  cases raised.symm.trans returned

end SafeSignalTrader
