import SafeSignalTrader.DecimalApprovals
import SafeSignalTrader.EntryPlanner

/-!
# Risk approval and entry planning

The risk engine approves by notional, the entry planner asks for a positive
quantity.  An approval carries its quantity unless there is no usable price to
size it with, or nothing but the rounding to eight places bounds the quantity
from below; then the plan is blocked, with the reason of an approval.
-/

namespace SafeSignalTrader

open DecimalContext DecimalRounding

namespace EntryPlanner

/-- A plan reports a risk rejection exactly if no quantity was approved. -/
theorem plan_riskRejected_iff
    {Reason : Type}
    {arithmetic : DecimalArithmetic}
    {tradeId : UUID}
    {signal : NormalizedSignal}
    {snapshot : EffectiveConfigSnapshot}
    {risk : RiskDecision Reason}
    {attempt : Int}
    {markPrice : Option Decimal}
    {entry : EntryPlan Reason}
    (planned :
      plan arithmetic tradeId signal snapshot risk attempt markPrice =
        .ok entry)
    {reason : Reason} :
    entry.blockReason = some (.riskRejected reason) ↔
      approvedQuantity? risk = none ∧ risk.reason = reason := by
  obtain ⟨terms, found, _, rfl⟩ := plan_eq_ok_iff.mp planned
  dsimp only [draft]
  unfold entryTerms at found
  cases approved : approvedQuantity? risk with
  | none =>
      rw [approved] at found
      cases found
      simp
  | some quantity =>
      rw [approved] at found
      simp only [reduceCtorEq, false_and, iff_false]
      dsimp only at found
      split at found
      · cases found
        simp
      · obtain ⟨late, checked, rest⟩ := bind_eq_ok_iff.mp found
        cases late with
        | none =>
            cases rest
            simp
        | some block =>
            cases rest
            rw [eq_lateReason checked]
            cases signal.side with
            | long => simp [lateReason]
            | short => simp [lateReason]

end EntryPlanner

namespace RiskEngine

section Sizing

variable {budget price rawQty qty : Decimal}

/-- The eighth decimal place. -/
theorem eighth_place : (10 : Decimal) ^ (-8 : Int) = 1 / 100000000 := by
  norm_num

/-- Less than the eighth place is quantized to nothing. -/
theorem quantize_of_small
    (nonneg : 0 ≤ rawQty)
    (small : rawQty < 1 / 100000000) :
    contextArithmetic.quantize (-8) rawQty = .ok 0 := by
  have empty : quantizeDown ((10 : Decimal) ^ (-8 : Int)) rawQty = 0 :=
    quantizeDown_eq_zero (pow_pos _) nonneg (by rw [eighth_place]; exact small)
  have fits :
      |rawQty| < (10 : Decimal) ^ ((-8 : Int) + defaultContext.precision) := by
    rw [abs_of_nonneg nonneg]
    exact lt_trans small (by norm_num [defaultContext])
  rw [← empty]
  exact Context.quantize_of_lt (by decide) fits

/-- At least the eighth place is quantized to something. -/
theorem quantize_pos
    (reached : 1 / 100000000 ≤ rawQty)
    (quantized : contextArithmetic.quantize (-8) rawQty = .ok qty) :
    0 < qty := by
  have tick : (0 : Decimal) < 1 / 100000000 := by norm_num
  have isQty : qty = quantizeDown (10 ^ (-8 : Int)) rawQty :=
    eq_of_quantize_eq_ok quantized
  rw [isQty, eighth_place, quantizeDown,
    floorDiv_of_nonneg tick (le_trans (le_of_lt tick) reached)]
  apply mul_pos _ tick
  apply Int.cast_pos.mpr
  rw [Int.floor_pos, le_div_iff₀ tick, one_mul]
  exact reached

end Sizing

section Agreement

variable (signal : NormalizedSignal)
variable (snapshot : EffectiveConfigSnapshot)
variable (symbolRules : Option SymbolRules)
variable (currentExposureUsdt : Decimal)
variable (openPositionCount maxOpenPositions : Int)
variable (markPrice : Option Decimal)

/--
The inputs on which an approval has no quantity to trade: a position slot and
some budget are left, and there is no usable price, or there are no trading
rules and the budget buys, to 28 digits, less than a hundred-millionth.
-/
structure UnsizedApproval : Prop where
  slotFree : openPositionCount < maxOpenPositions
  unsizable :
    ∃ budget,
      OpenBudget signal snapshot currentExposureUsdt budget ∧ 0 < budget ∧
        ((∀ price, orDecimal markPrice signal.entryPrice = some price →
            price ≤ 0) ∨
          symbolRules = none ∧
            ∃ price, orDecimal markPrice signal.entryPrice = some price ∧
              0 < price ∧
                defaultContext.rounded (budget / price) < 1 / 100000000)

variable {signal snapshot symbolRules currentExposureUsdt}
variable {openPositionCount maxOpenPositions markPrice}
variable {decision : RiskDecision RiskReason}

/-- An approval that is not unsized has a positive quantity. -/
theorem quantity_pos_of_allowed
    (evaluated :
      evaluateWith contextArithmetic signal snapshot symbolRules
        currentExposureUsdt openPositionCount maxOpenPositions markPrice =
          .ok decision)
    (allowed : decision.allowed = true)
    (sized : ¬ UnsizedApproval signal snapshot symbolRules
      currentExposureUsdt openPositionCount maxOpenPositions markPrice) :
    ∃ quantity, decision.quantity = some quantity ∧ 0 < quantity := by
  obtain ⟨slotFree, budget, opened, approves⟩ :=
    evaluateWith_approves_iff.mp ⟨evaluated, allowed⟩
  have left := openBudgetWith_eq_some_iff.mp opened
  cases approves with
  | unpriced noPrice positive =>
      exact absurd ⟨slotFree, budget, left, positive, Or.inl noPrice⟩ sized
  | unruled noRules priced pricePositive divided quantized positive =>
      refine ⟨_, rfl, quantize_pos ?_ quantized⟩
      obtain ⟨_, isRaw⟩ := (divide_eq_ok_iff pricePositive).mp divided
      by_contra small
      rw [← isRaw] at small
      exact sized ⟨slotFree, budget, left, positive,
        Or.inr ⟨noRules, _, priced, pricePositive, not_le.mp small⟩⟩
  | ruled _ _ pricePositive _ _ worth _ positive =>
      exact ⟨_, rfl, worth.lot_pos pricePositive positive⟩

/-- On these inputs there is an approval without a positive quantity. -/
theorem UnsizedApproval.approved
    (unsized : UnsizedApproval signal snapshot symbolRules
      currentExposureUsdt openPositionCount maxOpenPositions markPrice) :
    ∃ decision,
      evaluateWith contextArithmetic signal snapshot symbolRules
          currentExposureUsdt openPositionCount maxOpenPositions markPrice =
        .ok decision ∧
      decision.allowed = true ∧
        ∀ quantity, decision.quantity = some quantity → quantity ≤ 0 := by
  obtain ⟨slotFree, budget, left, positive, unsizable⟩ := unsized
  have opened := openBudgetWith_eq_some_iff.mpr left
  rcases unsizable with unpriced | ⟨noRules, price, priced, pricePositive,
    small⟩
  · obtain ⟨evaluated, allowed⟩ :=
      evaluateWith_approves_iff.mpr
        ⟨slotFree, budget, opened, .unpriced unpriced positive⟩
    refine ⟨_, evaluated, allowed, ?_⟩
    intro quantity present
    cases present
  · have nonneg : 0 ≤ defaultContext.rounded (budget / price) :=
      Context.rounded_nonneg
        (div_nonneg (le_of_lt positive) (le_of_lt pricePositive))
    have inRange : InRange (budget / price) := by
      rw [InRange, abs_of_nonneg nonneg]
      exact lt_trans small (lt_of_lt_of_le (by norm_num : _ < (1 : Decimal))
        (one_le_zpow₀ (by norm_num) (by decide)))
    have divided := (divide_eq_ok_iff pricePositive).mpr ⟨inRange, rfl⟩
    obtain ⟨evaluated, allowed⟩ :=
      evaluateWith_approves_iff.mpr
        ⟨slotFree, budget, opened, .unruled noRules priced pricePositive
          divided (quantize_of_small nonneg small) positive⟩
    refine ⟨_, evaluated, allowed, ?_⟩
    intro quantity present
    cases present
    exact le_rfl

end Agreement

end RiskEngine

/--
A risk decision agrees with entry planning: an approval has a positive
quantity, no plan made on it is a risk rejection, and no risk rejection gives
the reason of an approval.
-/
structure ApprovalPlannable
    (signal : NormalizedSignal)
    (snapshot : EffectiveConfigSnapshot)
    (risk : RiskDecision RiskReason) : Prop where
  sized :
    risk.allowed = true →
      ∃ quantity, risk.quantity = some quantity ∧ 0 < quantity
  notRejected :
    risk.allowed = true → ∀ tradeId attempt markPrice reason entry,
      EntryPlanner.plan contextArithmetic tradeId signal snapshot risk attempt
          markPrice = .ok entry →
        entry.blockReason ≠ some (.riskRejected reason)
  rejectedForReason :
    ∀ tradeId attempt markPrice entry,
      EntryPlanner.plan contextArithmetic tradeId signal snapshot risk attempt
          markPrice = .ok entry →
        entry.blockReason ≠ some (.riskRejected .ok)

end SafeSignalTrader
