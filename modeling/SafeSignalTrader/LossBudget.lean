import SafeSignalTrader.DecimalApprovals

/-!
# The loss budget

An approval reports the loss budget it was sized with, which is the configured
one unless that is zero: a configured loss of zero is taken for a missing one,
and the default of 10 trades in its place.  The amount is computed to 28
digits, which may carry it past the product of the budget and the leverage.
-/

namespace SafeSignalTrader

open DecimalContext DecimalRounding

namespace RiskEngine

/-- An approval within a configured loss budget, which it reports. -/
structure WithinLossBudget
    (loss : Decimal)
    (decision : RiskDecision RiskReason) : Prop where
  notional : decision.notionalUsdt ≤ loss * (decision.leverage : Decimal)
  reported : decision.maxLossUsdt = some loss

/--
The amount a budget trades: the whole of it without a usable price, or else
the cents that the lot it buys is worth, if that lot reaches the minimum and
is worth trading.
-/
inductive TradedAmount
    (rules : SymbolRules)
    (usablePrice : Option Decimal)
    (budget : Decimal) : Decimal → Prop where
  | unpriced
      (noPrice : ∀ price, usablePrice = some price → price ≤ 0)
      (positive : 0 < budget) :
      TradedAmount rules usablePrice budget budget
  | lot
      {price lot cents : Decimal}
      (priced : usablePrice = some price)
      (pricePositive : 0 < price)
      (buys : BuysLot contextArithmetic rules budget price lot)
      (reaches : rules.minQty ≤ lot)
      (worth : WorthCents contextArithmetic price lot cents)
      (trades : rules.minNotional ≤ cents)
      (positive : 0 < cents) :
      TradedAmount rules usablePrice budget cents

section LossBudget

variable (signal : NormalizedSignal)
variable (snapshot : EffectiveConfigSnapshot)
variable (rules : SymbolRules)
variable (currentExposureUsdt : Decimal)
variable (openPositionCount maxOpenPositions : Int)
variable (markPrice : Option Decimal)

/-- The inputs that trade an amount: a slot is free and the budget trades it. -/
structure TradesAmount (amount : Decimal) : Prop where
  slotFree : openPositionCount < maxOpenPositions
  traded :
    ∃ budget,
      OpenBudget signal snapshot currentExposureUsdt budget ∧
        TradedAmount rules (orDecimal markPrice signal.entryPrice) budget
          amount

/-- No result on the way to a traded amount is rounded up to its 28 digits. -/
structure NeverRoundsUp : Prop where
  notional :
    defaultContext.rounded (fullNotional signal snapshot) ≤
      fullNotional signal snapshot
  exposure :
    ∀ cap notional, snapshot.maxNotionalUsdt = some cap →
      notional =
          min (defaultContext.rounded (fullNotional signal snapshot)) cap →
        defaultContext.rounded (currentExposureUsdt + notional) ≤
            currentExposureUsdt + notional ∧
          defaultContext.rounded (cap - currentExposureUsdt) ≤
            cap - currentExposureUsdt
  lots :
    ∀ count : Int,
      defaultContext.rounded (count * rules.stepSize) ≤
        count * rules.stepSize
  price :
    ∀ price, orDecimal markPrice signal.entryPrice = some price →
      ∀ budget, OpenBudget signal snapshot currentExposureUsdt budget →
        defaultContext.rounded (budget / price) ≤ budget / price ∧
          ∀ lot, BuysLot contextArithmetic rules budget price lot →
            defaultContext.rounded (lot * price) ≤ lot * price

/--
The inputs on which the configured loss does not bind: it is zero although an
amount is traded, on the default of 10, or a result is rounded up and carries
the amount past the product of the loss and the leverage.
-/
inductive LossUnbound (loss : Decimal) : Prop where
  | onDefault
      {amount : Decimal}
      (zero : loss = 0)
      (trades : TradesAmount signal snapshot rules currentExposureUsdt
        openPositionCount maxOpenPositions markPrice amount)
  | roundedPast
      {amount : Decimal}
      (roundsUp : ¬ NeverRoundsUp signal snapshot rules currentExposureUsdt
        markPrice)
      (trades : TradesAmount signal snapshot rules currentExposureUsdt
        openPositionCount maxOpenPositions markPrice amount)
      (past : loss * (ladder signal snapshot : Decimal) < amount)

variable {signal snapshot rules currentExposureUsdt}
variable {openPositionCount maxOpenPositions markPrice}
variable {decision : RiskDecision RiskReason}

/-- An approval reports its leverage, its loss budget and a traded amount. -/
theorem tradesAmount_of_allowed
    (evaluated :
      evaluateWith contextArithmetic signal snapshot (some rules)
        currentExposureUsdt openPositionCount maxOpenPositions markPrice =
          .ok decision)
    (allowed : decision.allowed = true) :
    decision.leverage = ladder signal snapshot ∧
      decision.maxLossUsdt = some (lossBudget snapshot) ∧
        TradesAmount signal snapshot rules currentExposureUsdt
          openPositionCount maxOpenPositions markPrice
          decision.notionalUsdt := by
  obtain ⟨slotFree, sized⟩ :=
    evaluateWith_approves_iff.mp ⟨evaluated, allowed⟩
  obtain ⟨budget, opened, approves⟩ := sized
  have left := openBudgetWith_eq_some_iff.mp opened
  cases approves with
  | unpriced noPrice positive =>
      exact ⟨rfl, rfl, slotFree, _, left, .unpriced noPrice positive⟩
  | unruled noRules _ _ _ _ _ => cases noRules
  | ruled underRules priced pricePositive buys reaches worth trades
      positive =>
      cases underRules
      exact ⟨rfl, rfl, slotFree, _, left,
        .lot priced pricePositive buys reaches worth trades positive⟩

/-- Every amount that is traded is approved, under the loss budget in use. -/
theorem TradesAmount.approved
    {amount : Decimal}
    (trades : TradesAmount signal snapshot rules currentExposureUsdt
      openPositionCount maxOpenPositions markPrice amount) :
    ∃ quantity,
      evaluateWith contextArithmetic signal snapshot (some rules)
          currentExposureUsdt openPositionCount maxOpenPositions markPrice =
        .ok (approval (ladder signal snapshot) (lossBudget snapshot) amount
          quantity) := by
  obtain ⟨slotFree, sized⟩ := trades
  obtain ⟨budget, left, traded⟩ := sized
  have opened := openBudgetWith_eq_some_iff.mpr left
  cases traded with
  | unpriced noPrice positive =>
      exact ⟨none, (evaluateWith_approves_iff.mpr
        ⟨slotFree, _, opened, .unpriced noPrice positive⟩).1⟩
  | lot priced pricePositive buys reaches worth trades positive =>
      exact ⟨_, (evaluateWith_approves_iff.mpr
        ⟨slotFree, _, opened, .ruled rfl priced pricePositive buys
          reaches worth trades positive⟩).1⟩

/-- A configured loss is in use exactly if it is not zero. -/
theorem lossBudget_eq_iff
    {loss : Decimal}
    (lossSet : snapshot.maxLossUsdt = some loss) :
    lossBudget snapshot = loss ↔ loss ≠ 0 := by
  unfold lossBudget
  rw [lossSet]
  dsimp only
  split
  · next zero =>
      refine iff_of_false ?_ (not_not.mpr zero)
      rw [zero]
      norm_num
  · next nonzero => exact iff_of_true rfl nonzero

section RoundedDown

variable (exactly : NeverRoundsUp signal snapshot rules currentExposureUsdt
  markPrice)
variable {budget price lot : Decimal}

include exactly

/-- Without rounding up the budget stays within the notional. -/
theorem budget_le_of_neverRoundsUp
    (left : OpenBudget signal snapshot currentExposureUsdt budget) :
    budget ≤ fullNotional signal snapshot := by
  have full := exactly.notional
  cases left with
  | uncapped => exact full
  | within _ _ isNotional _ _ =>
      rw [isNotional]
      exact le_trans (min_le_left _ _) full
  | @clipped cap _ capSet _ isNotional _ exceeds _ _ =>
      obtain ⟨total, remainder⟩ := exactly.exposure _ _ capSet isNotional
      have below :=
        min_le_left
          (defaultContext.rounded (fullNotional signal snapshot)) cap
      rw [← isNotional] at below
      linarith

/-- Without rounding up a lot costs no more than the budget. -/
theorem lot_le_of_neverRoundsUp
    (minimumReached : rules.stepSize ≤ rules.minQty)
    (left : OpenBudget signal snapshot currentExposureUsdt budget)
    (positive : 0 < lot)
    (priced : orDecimal markPrice signal.entryPrice = some price)
    (pricePositive : 0 < price)
    (buys : BuysLot contextArithmetic rules budget price lot) :
    lot * price ≤ budget := by
  obtain ⟨rawQty, qty, divided, quantized, isLot⟩ := buys
  obtain ⟨_, isRaw⟩ := (divide_eq_ok_iff pricePositive).mp divided
  have rawLe : rawQty ≤ budget / price := by
    rw [← isRaw]
    exact (exactly.price price priced budget left).1
  have isQty : qty = quantizeDown (10 ^ (-8 : Int)) rawQty :=
    eq_of_quantize_eq_ok quantized
  have qtyLe : 0 < qty → qty ≤ rawQty := by
    intro qtyPositive
    rw [isQty] at qtyPositive ⊢
    exact quantizeDown_le (pow_pos _)
      (le_of_lt (pos_of_quantizeDown_pos (pow_pos _) qtyPositive))
  have lotLe : lot ≤ rawQty := by
    unfold lotQuantityWith at isLot
    split at isLot
    · next stepPositive =>
        obtain ⟨lots, counted, rest⟩ := bind_eq_ok_iff.mp isLot
        obtain ⟨floored, multiplied, lifted⟩ := bind_eq_ok_iff.mp rest
        split at lifted
        · next lift =>
            cases lifted
            exact le_trans minimumReached lift.2
        · cases lifted
          have isLots : lots = floorDiv qty rules.stepSize :=
              (eq_of_divideInt_eq_ok counted).1
          obtain ⟨_, isFloored⟩ := finalize_eq_ok_iff.mp multiplied
          have below := exactly.lots (floorDiv qty rules.stepSize)
          rw [← isLots, isFloored] at below
          have floorPositive : 0 < quantizeDown rules.stepSize qty := by
            refine lt_of_lt_of_le positive ?_
            rw [isLots] at below
            exact below
          have qtyPositive := pos_of_quantizeDown_pos stepPositive
            floorPositive
          calc
            _ ≤ lots * rules.stepSize := below
            _ = quantizeDown rules.stepSize qty := by
              rw [isLots]
              rfl
            _ ≤ qty := quantizeDown_le stepPositive (le_of_lt qtyPositive)
            _ ≤ rawQty := qtyLe qtyPositive
    · cases isLot
      exact qtyLe positive
  exact (le_div_iff₀ pricePositive).mp (le_trans lotLe rawLe)

/-- Without rounding up no traded amount exceeds the notional. -/
theorem TradesAmount.le_of_neverRoundsUp
    (minimumReached : rules.stepSize ≤ rules.minQty)
    {amount : Decimal}
    (trades : TradesAmount signal snapshot rules currentExposureUsdt
      openPositionCount maxOpenPositions markPrice amount) :
    amount ≤ fullNotional signal snapshot := by
  obtain ⟨_, sized⟩ := trades
  obtain ⟨budget, left, traded⟩ := sized
  have budgetLe := budget_le_of_neverRoundsUp exactly left
  cases traded with
  | unpriced => exact budgetLe
  | lot priced pricePositive buys _ worth _ positive =>
      have affordable :=
        lot_le_of_neverRoundsUp exactly minimumReached left
          (worth.lot_pos pricePositive positive) priced pricePositive buys
      have worthLe := ((exactly.price _ priced _ left).2 _ buys)
      obtain ⟨product, multiplied, quantized⟩ := worth
      obtain ⟨_, isProduct⟩ := finalize_eq_ok_iff.mp multiplied
      have isCents : amount = quantizeDown (10 ^ (-2 : Int)) product :=
        eq_of_quantize_eq_ok quantized
      rw [isCents] at positive ⊢
      have productPositive := pos_of_quantizeDown_pos (pow_pos _) positive
      calc
        _ ≤ product := quantizeDown_le (pow_pos _) (le_of_lt productPositive)
        _ ≤ _ := by
          rw [← isProduct]
          exact worthLe
        _ ≤ budget := affordable
        _ ≤ _ := budgetLe

end RoundedDown

end LossBudget

/-- A BTCUSDT entry on a configured loss of 100. -/
theorem evaluateWith_hundred :
    evaluateWith contextArithmetic
        (.default 1 "tg" "generic_structured" "1.0.0" "BTCUSDT" .long)
        { EffectiveConfigSnapshot.default "tg" "acc" "p" "1" with
          maxLossUsdt := some 100 }
        (some (.default "BTCUSDT")) 0 0 5 (some 65000) =
      .ok (approval 1 100 65 (some (1 / 1000))) :=
  toOption_eq_some_iff.mp (by decide +kernel)

end RiskEngine

end SafeSignalTrader
