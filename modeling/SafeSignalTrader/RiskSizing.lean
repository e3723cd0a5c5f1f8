import SafeSignalTrader.RiskExposure

/-!
# Exact sizing

Under rules whose step is a multiple of the eight places and no more than the
minimum, the three roundings are one: the greatest lot the budget buys.
-/

namespace SafeSignalTrader

open DecimalRounding

namespace RiskEngine

section Budget

variable {signal : NormalizedSignal}
variable {snapshot : EffectiveConfigSnapshot}
variable {currentExposureUsdt notional : Decimal}

/-- The loss budget times the leverage, within the cap and what it leaves. -/
def openBudget
    (signal : NormalizedSignal)
    (snapshot : EffectiveConfigSnapshot)
    (currentExposureUsdt : Decimal) : Decimal :=
  let notional := lossBudget snapshot * (ladder signal snapshot : Decimal)
  match snapshot.maxNotionalUsdt with
  | some cap => min (min notional cap) (cap - currentExposureUsdt)
  | none => notional

/-- A positive remainder of the exposure limit is the open budget. -/
theorem exposureRemainder_pos_iff :
    (exposureRemainder snapshot currentExposureUsdt
          (cappedNotional signal snapshot) = some notional ∧
        0 < notional) ↔
      notional = openBudget signal snapshot currentExposureUsdt ∧
        0 < notional := by
  cases capSet : snapshot.maxNotionalUsdt with
  | none =>
      simp only [exposureRemainder, cappedNotional, openBudget, capSet,
        Option.some.injEq]
      rw [eq_comm]
  | some cap =>
      rw [exposureRemainder_eq_some_iff capSet]
      simp only [cappedNotional, openBudget, capSet]
      constructor
      · intro remains
        exact ⟨remains.1.2, remains.2⟩
      · intro remains
        obtain ⟨isBudget, positive⟩ := remains
        refine ⟨⟨Or.inl ?_, isBudget⟩, positive⟩
        rw [isBudget] at positive
        exact sub_pos.mp (lt_of_lt_of_le positive (min_le_right _ _))

end Budget

section Approval

variable {signal : NormalizedSignal}
variable {snapshot : EffectiveConfigSnapshot}
variable {symbolRules : Option SymbolRules}
variable {rules : SymbolRules}
variable {currentExposureUsdt : Decimal}
variable {openPositionCount maxOpenPositions : Int}
variable {markPrice : Option Decimal}
variable {leverage : Nat}
variable {maxLoss notional price rawQty : Decimal}

/-- Without a usable price every open budget is approved, and unsized. -/
theorem evaluate_unpriced
    (unpriced : ∀ price,
      orDecimal markPrice signal.entryPrice = some price → price ≤ 0) :
    ((evaluate signal snapshot symbolRules currentExposureUsdt
          openPositionCount maxOpenPositions markPrice).allowed = true ↔
        openPositionCount < maxOpenPositions ∧
          0 < openBudget signal snapshot currentExposureUsdt) ∧
      (evaluate signal snapshot symbolRules currentExposureUsdt
          openPositionCount maxOpenPositions markPrice).quantity = none := by
  unfold evaluate
  split
  · next full =>
      simp [full]
  · next free =>
      simp only [not_le.mp free, true_and]
      cases remainder :
          exposureRemainder snapshot currentExposureUsdt
            (cappedNotional signal snapshot) with
      | none =>
          refine ⟨iff_of_false (by simp) ?_, rfl⟩
          intro budgetOpen
          have positive := exposureRemainder_pos_iff.mpr ⟨rfl, budgetOpen⟩
          rw [remainder] at positive
          cases positive.1
      | some notional =>
          have budgetIff :
              0 < notional ↔
                0 < openBudget signal snapshot currentExposureUsdt := by
            constructor
            · intro positive
              have isBudget :=
                exposureRemainder_pos_iff.mp ⟨remainder, positive⟩
              rw [isBudget.1] at positive
              exact positive
            · intro budgetOpen
              have positive :=
                exposureRemainder_pos_iff.mpr ⟨rfl, budgetOpen⟩
              rw [remainder] at positive
              rw [Option.some.inj positive.1]
              exact positive.2
          cases priced : orDecimal markPrice signal.entryPrice with
          | none =>
              exact ⟨conclude_allowed_iff.trans budgetIff,
                conclude_none_quantity⟩
          | some price =>
              simp only [if_neg (not_lt.mpr (unpriced price priced))]
              exact ⟨conclude_allowed_iff.trans budgetIff,
                conclude_none_quantity⟩

/-- Nothing positive is bought with an empty budget. -/
theorem lotQuantity_nonpos
    (minimumPositive : 0 < rules.minQty)
    (empty : rawQty ≤ 0) :
    lotQuantity rules rawQty (quantizeDown (1 / 100000000) rawQty) ≤ 0 := by
  have rounded : quantizeDown (1 / 100000000) rawQty ≤ 0 :=
    quantizeDown_nonpos (by norm_num) empty
  unfold lotQuantity
  split
  · next stepPositive =>
      dsimp only
      rw [if_neg]
      · exact quantizeDown_nonpos stepPositive rounded
      · intro lifted
        exact absurd (lt_of_lt_of_le minimumPositive lifted.2)
          (not_lt.mpr empty)
  · exact rounded

/-- What is approved at a price has a positive budget. -/
theorem notional_pos_of_sizeAtPrice
    (minimumPositive :
      ∀ rules, symbolRules = some rules → 0 < rules.minQty)
    (pricePositive : 0 < price)
    (allowed :
      (sizeAtPrice symbolRules leverage maxLoss notional price).allowed =
        true) :
    0 < notional := by
  cases symbolRules with
  | none => exact conclude_allowed_iff.mp allowed
  | some rules =>
      by_contra empty
      have minimum := minimumPositive rules rfl
      have lotEmpty :=
        lotQuantity_nonpos minimum
          (div_nonpos_of_nonpos_of_nonneg (not_lt.mp empty)
            (le_of_lt pricePositive))
      obtain ⟨reaches, _⟩ := (sizeUnderRules_allowed_iff rfl).mp allowed
      exact absurd (lt_of_lt_of_le minimum reaches) (not_lt.mpr lotEmpty)

/-- With a usable price an open budget is sized. -/
theorem evaluate_priced
    (slotFree : openPositionCount < maxOpenPositions)
    (budgetOpen : 0 < openBudget signal snapshot currentExposureUsdt)
    (priced : orDecimal markPrice signal.entryPrice = some price)
    (pricePositive : 0 < price) :
    evaluate signal snapshot symbolRules currentExposureUsdt
        openPositionCount maxOpenPositions markPrice =
      sizeAtPrice symbolRules (ladder signal snapshot) (lossBudget snapshot)
        (openBudget signal snapshot currentExposureUsdt) price :=
  evaluate_eq_sizeAtPrice priced pricePositive slotFree
    (exposureRemainder_pos_iff.mpr ⟨rfl, budgetOpen⟩).1

/-- Every approval comes from a free slot and an open budget. -/
theorem budgetOpen_of_allowed
    (minimumPositive :
      ∀ rules, symbolRules = some rules → 0 < rules.minQty)
    (allowed :
      (evaluate signal snapshot symbolRules currentExposureUsdt
        openPositionCount maxOpenPositions markPrice).allowed = true) :
    openPositionCount < maxOpenPositions ∧
      0 < openBudget signal snapshot currentExposureUsdt := by
  by_cases unpriced : ∀ price,
      orDecimal markPrice signal.entryPrice = some price → price ≤ 0
  · exact (evaluate_unpriced unpriced).1.mp allowed
  · push Not at unpriced
    obtain ⟨price, priced, pricePositive⟩ := unpriced
    obtain ⟨slotFree, notional, remainder, sized⟩ :=
      (evaluate_allowed_iff priced pricePositive).mp allowed
    have positive :=
      notional_pos_of_sizeAtPrice minimumPositive pricePositive sized
    obtain ⟨isBudget, _⟩ :=
      exposureRemainder_pos_iff.mp ⟨remainder, positive⟩
    exact ⟨slotFree, by rw [← isBudget]; exact positive⟩

/-- With a usable price, approvals are approved sizings of open budgets. -/
theorem evaluate_allowed_iff_budget
    (minimumPositive :
      ∀ rules, symbolRules = some rules → 0 < rules.minQty)
    (priced : orDecimal markPrice signal.entryPrice = some price)
    (pricePositive : 0 < price) :
    (evaluate signal snapshot symbolRules currentExposureUsdt
        openPositionCount maxOpenPositions markPrice).allowed = true ↔
      openPositionCount < maxOpenPositions ∧
        0 < openBudget signal snapshot currentExposureUsdt ∧
          (sizeAtPrice symbolRules (ladder signal snapshot)
            (lossBudget snapshot)
            (openBudget signal snapshot currentExposureUsdt)
            price).allowed = true := by
  constructor
  · intro allowed
    obtain ⟨slotFree, budgetOpen⟩ :=
      budgetOpen_of_allowed minimumPositive allowed
    rw [evaluate_priced slotFree budgetOpen priced pricePositive] at allowed
    exact ⟨slotFree, budgetOpen, allowed⟩
  · intro sized
    obtain ⟨slotFree, budgetOpen, allowed⟩ := sized
    rw [evaluate_priced slotFree budgetOpen priced pricePositive]
    exact allowed

theorem conclude_of_allowed
    {worth : Decimal}
    {quantity : Option Decimal}
    (allowed : (conclude leverage maxLoss worth quantity).allowed = true) :
    conclude leverage maxLoss worth quantity =
      { allowed := true
        reason := .ok
        leverage := leverage
        notionalUsdt := worth
        quantity := quantity
        maxLossUsdt := some maxLoss } :=
  if_neg (not_le.mpr (conclude_allowed_iff.mp allowed))

/-- An approved sizing reports the leverage and the loss it was given. -/
theorem sizeAtPrice_of_allowed
    (allowed :
      (sizeAtPrice symbolRules leverage maxLoss notional price).allowed =
        true) :
    (sizeAtPrice symbolRules leverage maxLoss notional price).leverage =
        leverage ∧
      (sizeAtPrice symbolRules leverage maxLoss notional
        price).maxLossUsdt = some maxLoss := by
  cases symbolRules with
  | none =>
      simp only [sizeAtPrice] at allowed ⊢
      rw [conclude_of_allowed allowed]
      exact ⟨rfl, rfl⟩
  | some rules =>
      simp only [sizeAtPrice, sizeUnderRules] at allowed ⊢
      split at allowed
      · cases allowed
      · next notBelow =>
          rw [if_neg notBelow]
          split at allowed
          · cases allowed
          · next notWorthless =>
              rw [if_neg notWorthless, conclude_of_allowed allowed]
              exact ⟨rfl, rfl⟩

end Approval

/-- A loss budget times a leverage, within what the exposure leaves of a cap. -/
def sizingBudget
    (maxNotionalUsdt : Option Decimal)
    (currentExposureUsdt notional : Decimal) : Decimal :=
  match maxNotionalUsdt with
  | some cap => min notional (cap - currentExposureUsdt)
  | none => notional

section ExactSizing

variable {signal : NormalizedSignal}
variable {snapshot : EffectiveConfigSnapshot}
variable {rules : SymbolRules}
variable {currentExposureUsdt loss rawQty : Decimal}
variable {stepTicks : Nat}

/-- A positive loss is the loss budget. -/
theorem lossBudget_of_ne_zero
    (lossSet : snapshot.maxLossUsdt = some loss)
    (nonzero : loss ≠ 0) :
    lossBudget snapshot = loss := by
  rw [lossBudget, lossSet]
  exact if_neg nonzero

/-- Clipping to the cap itself is idle under a non-negative exposure. -/
theorem openBudget_eq_sizingBudget
    (exposureNonneg : 0 ≤ currentExposureUsdt) :
    openBudget signal snapshot currentExposureUsdt =
      sizingBudget snapshot.maxNotionalUsdt currentExposureUsdt
        (lossBudget snapshot * (ladder signal snapshot : Decimal)) := by
  unfold openBudget sizingBudget
  cases snapshot.maxNotionalUsdt with
  | none => rfl
  | some cap =>
      dsimp only
      rw [min_assoc, min_eq_right (sub_le_self cap exposureNonneg)]

/--
Under a step of whole ticks that is no more than the minimum, no lot is lifted
and the rounding to ticks does not show.
-/
theorem lotQuantity_eq_floor
    (ticksPositive : 0 < stepTicks)
    (stepMultiple :
      rules.stepSize = (stepTicks : Decimal) * (1 / 100000000))
    (minimumReached : rules.stepSize ≤ rules.minQty)
    (nonneg : 0 ≤ rawQty) :
    lotQuantity rules rawQty (quantizeDown (1 / 100000000) rawQty) =
      ⌊rawQty / rules.stepSize⌋ * rules.stepSize := by
  have tick : (0 : Decimal) < 1 / 100000000 := by norm_num
  have stepPositive : 0 < rules.stepSize := by
    rw [stepMultiple]
    exact mul_pos (Nat.cast_pos.mpr ticksPositive) tick
  have floored :
      quantizeDown rules.stepSize (quantizeDown (1 / 100000000) rawQty) =
        ⌊rawQty / rules.stepSize⌋ * rules.stepSize := by
    rw [← quantizeDown_of_nonneg stepPositive nonneg, stepMultiple]
    exact quantizeDown_multiple tick ticksPositive nonneg
  simp only [lotQuantity, if_pos stepPositive, floored]
  apply if_neg
  intro lifted
  obtain ⟨empty, reaches⟩ := lifted
  have oneStep : 1 ≤ ⌊rawQty / rules.stepSize⌋ := by
    rw [Int.le_floor, Int.cast_one, le_div_iff₀ stepPositive, one_mul]
    exact le_trans minimumReached reaches
  have positive :
      0 < (⌊rawQty / rules.stepSize⌋ : Decimal) * rules.stepSize :=
    mul_pos (Int.cast_pos.mpr (Int.one_pos.trans_le oneStep)) stepPositive
  exact absurd empty (not_le.mpr positive)

end ExactSizing

/-- The greatest whole number of steps that a budget buys at a price. -/
def IsGreatestLot
    (stepSize price budget quantity : Decimal) : Prop :=
  IsGreatest
    {lot : Decimal |
      (∃ count : Int, lot = count * stepSize) ∧ lot * price ≤ budget}
    quantity

/-- The greatest number of whole cents within a value. -/
def IsWholeCents (value cents : Decimal) : Prop :=
  IsGreatest
    {amount : Decimal |
      (∃ count : Int, amount = count * (1 / 100)) ∧ amount ≤ value}
    cents

/-- The floor is the greatest lot. -/
theorem isGreatestLot_floor
    {stepSize price : Decimal}
    (stepPositive : 0 < stepSize)
    (pricePositive : 0 < price)
    (budget : Decimal) :
    IsGreatestLot stepSize price budget
      (⌊budget / price / stepSize⌋ * stepSize) := by
  have greatest := isGreatest_floor_mul stepPositive (budget / price)
  simp only [le_div_iff₀ pricePositive] at greatest
  exact greatest

/--
Exact sizing.  An evaluation is allowed exactly if the budget is positive and
the greatest lot it buys reaches the minimum and is worth trading; then it
returns that lot, its value in whole cents and the leverage.
-/
theorem exactSizing
    (signal : NormalizedSignal)
    (snapshot : EffectiveConfigSnapshot)
    (rules : SymbolRules)
    (currentExposureUsdt : Decimal)
    (openPositionCount maxOpenPositions : Int)
    (markPrice : Option Decimal)
    (loss price budget : Decimal)
    (stepTicks : Nat)
    (lossSet : snapshot.maxLossUsdt = some loss)
    (lossPositive : 0 < loss)
    (exposureNonneg : 0 ≤ currentExposureUsdt)
    (priced : orDecimal markPrice signal.entryPrice = some price)
    (pricePositive : 0 < price)
    (ticksPositive : 0 < stepTicks)
    (stepMultiple :
      rules.stepSize = (stepTicks : Decimal) * (1 / 100000000))
    (minimumReached : rules.stepSize ≤ rules.minQty)
    (slotFree : openPositionCount < maxOpenPositions)
    (isBudget :
      budget =
        sizingBudget snapshot.maxNotionalUsdt currentExposureUsdt
          (loss * (ladder signal snapshot : Decimal))) :
    ∃ quantity notional,
      IsGreatestLot rules.stepSize price budget quantity ∧
        IsWholeCents (quantity * price) notional ∧
          ∀ decision,
            evaluate signal snapshot (some rules) currentExposureUsdt
                openPositionCount maxOpenPositions markPrice =
              decision →
            (decision.allowed = true ↔
                0 < budget ∧ rules.minQty ≤ quantity ∧
                  rules.minNotional ≤ notional ∧ 0 < notional) ∧
              (decision.allowed = true →
                decision.quantity = some quantity ∧
                  decision.notionalUsdt = notional ∧
                    decision.leverage = ladder signal snapshot) := by
  have tick : (0 : Decimal) < 1 / 100000000 := by norm_num
  have cent : (0 : Decimal) < 1 / 100 := by norm_num
  have stepPositive : 0 < rules.stepSize := by
    rw [stepMultiple]
    exact mul_pos (Nat.cast_pos.mpr ticksPositive) tick
  have minimumPositive : 0 < rules.minQty :=
    lt_of_lt_of_le stepPositive minimumReached
  have sameBudget :
      openBudget signal snapshot currentExposureUsdt = budget := by
    rw [openBudget_eq_sizingBudget exposureNonneg,
      lossBudget_of_ne_zero lossSet (ne_of_gt lossPositive), isBudget]
  have allowedIff :=
    @evaluate_allowed_iff_budget signal snapshot (some rules)
      currentExposureUsdt openPositionCount maxOpenPositions markPrice price
      (fun _ same => Option.some.inj same ▸ minimumPositive) priced
      pricePositive
  refine ⟨_, _, isGreatestLot_floor stepPositive pricePositive budget,
    isGreatest_floor_mul cent _, ?_⟩
  intro decision evaluated
  subst evaluated
  rw [allowedIff, sameBudget]
  by_cases budgetOpen : 0 < budget
  · have rawNonneg : 0 ≤ budget / price :=
      le_of_lt (div_pos budgetOpen pricePositive)
    have lot :=
      lotQuantity_eq_floor ticksPositive stepMultiple minimumReached
        rawNonneg
    have quantityNonneg :
        0 ≤ (⌊budget / price / rules.stepSize⌋ : Decimal) *
          rules.stepSize := by
      rw [← quantizeDown_of_nonneg stepPositive rawNonneg]
      exact quantizeDown_nonneg stepPositive rawNonneg
    have cents :=
      quantizeDown_of_nonneg cent
        (mul_nonneg quantityNonneg (le_of_lt pricePositive))
    have sizedIff :=
      @sizeUnderRules_allowed_iff rules (ladder signal snapshot)
        (lossBudget snapshot) budget price _ lot
    rw [cents] at sizedIff
    rw [sizeAtPrice, sizedIff]
    refine ⟨by simp [slotFree, budgetOpen], ?_⟩
    intro sized
    rw [evaluate_priced slotFree (by rw [sameBudget]; exact budgetOpen)
      priced pricePositive, sameBudget, sizeAtPrice]
    have allowed := sizedIff.mpr sized.2.2
    obtain ⟨quantity, notional⟩ := sizeUnderRules_of_allowed lot allowed
    rw [cents] at notional
    have reported :=
      @sizeAtPrice_of_allowed (some rules) (ladder signal snapshot)
        (lossBudget snapshot) budget price allowed
    exact ⟨quantity, notional, reported.1⟩
  · simp [budgetOpen]

/-- A budget of 100 buys the greatest lot at 65000. -/
theorem exactSizing_defaultRules :
    ∃ quantity,
      IsGreatestLot (1 / 1000) 65000 100 quantity ∧
        (evaluate
          (.default 1 "tg" "generic_structured" "1.0.0" "BTCUSDT" .long)
          { EffectiveConfigSnapshot.default "tg" "acc" "p" "1" with
            maxLossUsdt := some 100 }
          (some (.default "BTCUSDT")) 0 0 5 (some 65000)).quantity =
            some quantity := by
  obtain ⟨quantity, _, isGreatest, _, evaluated⟩ :=
    exactSizing
      (.default 1 "tg" "generic_structured" "1.0.0" "BTCUSDT" .long)
      { EffectiveConfigSnapshot.default "tg" "acc" "p" "1" with
        maxLossUsdt := some 100 }
      (.default "BTCUSDT") 0 0 5 (some 65000) 100 65000 100 100000 rfl
      (by norm_num) le_rfl (by decide +kernel) (by norm_num) (by norm_num)
      (by decide +kernel) (by decide +kernel) (by norm_num)
      (by decide +kernel)
  exact ⟨quantity, isGreatest,
    ((evaluated _ rfl).2 (by decide +kernel)).1⟩

end RiskEngine

end SafeSignalTrader
