import SafeSignalTrader.DecimalArithmetic
import SafeSignalTrader.RiskEngine

/-!
# Sizing over a decimal arithmetic

`RiskEngine.evaluate` with every operation on decimals done by a given
arithmetic, which may raise.  Over exact arithmetic it is `evaluate`; the code
runs it in the default context.
-/

namespace SafeSignalTrader

open DecimalContext DecimalRounding

variable (arithmetic : DecimalArithmetic)

namespace RiskEngine

/-- The notional under the cap, if one is set. -/
def underCap (snapshot : EffectiveConfigSnapshot) (notional : Decimal) :
    Decimal :=
  match snapshot.maxNotionalUsdt with
  | some cap => min notional cap
  | none => notional

/-- The notional the exposure limit leaves; `none` when nothing remains. -/
def exposureRemainderWith
    (snapshot : EffectiveConfigSnapshot)
    (currentExposureUsdt notional : Decimal) :
    Except DecimalSignal (Option Decimal) :=
  match snapshot.maxNotionalUsdt with
  | some cap => do
      let total ← arithmetic.add currentExposureUsdt notional
      if cap < total then
        let remaining ← arithmetic.subtract cap currentExposureUsdt
        if remaining ≤ 0 then
          return none
        else
          return some remaining
      else
        return some notional
  | none => return some notional

/-- The quantity on the lot step. -/
def lotQuantityWith
    (rules : SymbolRules)
    (rawQty qty : Decimal) : Except DecimalSignal Decimal :=
  if 0 < rules.stepSize then do
    let lots ← arithmetic.divideInt qty rules.stepSize
    let floored ← arithmetic.multiply lots rules.stepSize
    if floored ≤ 0 ∧ rules.minQty ≤ rawQty then
      return rules.stepSize
    else
      return floored
  else
    return qty

/-- The checks of a quantity under the trading rules of a symbol. -/
def checkUnderRulesWith
    (rules : SymbolRules)
    (leverage : Nat)
    (maxLoss notional price qty : Decimal) :
    Except DecimalSignal (RiskDecision RiskReason) :=
  if qty < rules.minQty then
    return {
      allowed := false
      reason := .qtyBelowMin qty rules.minQty
      leverage := leverage
      notionalUsdt := notional
      quantity := some qty
      maxLossUsdt := some maxLoss }
  else do
    let worth ← arithmetic.multiply qty price
    let rounded ← arithmetic.quantize (-2) worth
    if rounded < rules.minNotional then
      return {
        allowed := false
        reason := .notionalBelowMin rounded
        leverage := leverage
        notionalUsdt := rounded
        quantity := some qty
        maxLossUsdt := some maxLoss }
    else
      return conclude leverage maxLoss rounded (some qty)

/-- The quantity from a usable price, with or without trading rules. -/
def sizeAtPriceWith
    (symbolRules : Option SymbolRules)
    (leverage : Nat)
    (maxLoss notional price : Decimal) :
    Except DecimalSignal (RiskDecision RiskReason) := do
  let rawQty ← arithmetic.divide notional price
  let qty ← arithmetic.quantize (-8) rawQty
  match symbolRules with
  | some rules =>
      let lot ← lotQuantityWith arithmetic rules rawQty qty
      checkUnderRulesWith arithmetic rules leverage maxLoss notional price lot
  | none => return conclude leverage maxLoss notional (some qty)

/-- `RiskEngine.evaluate` over an arithmetic. -/
def evaluateWith
    (signal : NormalizedSignal)
    (snapshot : EffectiveConfigSnapshot)
    (symbolRules : Option SymbolRules := none)
    (currentExposureUsdt : Decimal := 0)
    (openPositionCount : Int := 0)
    (maxOpenPositions : Int := 5)
    (markPrice : Option Decimal := none) :
    Except DecimalSignal (RiskDecision RiskReason) :=
  if maxOpenPositions ≤ openPositionCount then
    return {
      allowed := false
      reason := .maxOpenPositions maxOpenPositions
      leverage := 1
      notionalUsdt := 0
      quantity := none
      maxLossUsdt := none }
  else do
    let leverage := ladder signal snapshot
    let maxLoss := lossBudget snapshot
    let notional ← arithmetic.multiply maxLoss leverage
    match ← exposureRemainderWith arithmetic snapshot currentExposureUsdt
        (underCap snapshot notional) with
    | none =>
        return {
          allowed := false
          reason := .exposureLimit
          leverage := leverage
          notionalUsdt := 0
          quantity := none
          maxLossUsdt := none }
    | some notional =>
        match orDecimal markPrice signal.entryPrice with
        | some price =>
            if 0 < price then
              sizeAtPriceWith arithmetic symbolRules leverage maxLoss
                notional price
            else
              return conclude leverage maxLoss notional none
        | none => return conclude leverage maxLoss notional none

end RiskEngine

section Exact

open DecimalArithmetic

theorem eight_places : (10 : Decimal) ^ (-8 : Int) = 1 / 100000000 := by
  norm_num

theorem two_places : (10 : Decimal) ^ (-2 : Int) = 1 / 100 := by
  norm_num

namespace RiskEngine

theorem lotQuantityWith_exact (rules : SymbolRules) (rawQty qty : Decimal) :
    lotQuantityWith exact rules rawQty qty =
      .ok (lotQuantity rules rawQty qty) := by
  have floored :
      (floorDiv qty rules.stepSize : Decimal) * rules.stepSize =
        quantizeDown rules.stepSize qty := rfl
  unfold lotQuantityWith lotQuantity
  split
  · simp only [exact, bind, Except.bind, pure, Except.pure, floored]
    split <;> rfl
  · rfl

theorem exposureRemainderWith_exact
    (snapshot : EffectiveConfigSnapshot)
    (currentExposureUsdt notional : Decimal) :
    exposureRemainderWith exact snapshot currentExposureUsdt notional =
      .ok (exposureRemainder snapshot currentExposureUsdt notional) := by
  unfold exposureRemainderWith exposureRemainder
  cases snapshot.maxNotionalUsdt with
  | none => rfl
  | some cap =>
      simp only [exact, bind, Except.bind, pure, Except.pure]
      split
      · split <;> rfl
      · rfl

/-- Over exact arithmetic sizing at a price is the exact sizing. -/
theorem sizeAtPriceWith_exact
    (symbolRules : Option SymbolRules)
    (leverage : Nat)
    (maxLoss notional price : Decimal) :
    sizeAtPriceWith exact symbolRules leverage maxLoss notional price =
      .ok (sizeAtPrice symbolRules leverage maxLoss notional price) := by
  have divided :
      exact.divide notional price = .ok (notional / price) := rfl
  have quantized :
      exact.quantize (-8) (notional / price) =
        .ok (quantizeDown (1 / 100000000) (notional / price)) := by
    rw [← eight_places]
    rfl
  unfold sizeAtPriceWith
  rw [divided]
  simp only [bind, Except.bind]
  rw [quantized]
  cases symbolRules with
  | none => rfl
  | some rules =>
      simp only [lotQuantityWith_exact, checkUnderRulesWith, sizeAtPrice,
        sizeUnderRules]
      split
      · rfl
      · simp only [exact, bind, Except.bind, two_places]
        split <;> rfl

/-- Over exact arithmetic the evaluation is the exact evaluation. -/
theorem evaluateWith_exact
    (signal : NormalizedSignal)
    (snapshot : EffectiveConfigSnapshot)
    (symbolRules : Option SymbolRules)
    (currentExposureUsdt : Decimal)
    (openPositionCount maxOpenPositions : Int)
    (markPrice : Option Decimal) :
    evaluateWith exact signal snapshot symbolRules currentExposureUsdt
        openPositionCount maxOpenPositions markPrice =
      .ok (evaluate signal snapshot symbolRules currentExposureUsdt
        openPositionCount maxOpenPositions markPrice) := by
  have capped :
      underCap snapshot
          (lossBudget snapshot * (ladder signal snapshot : Decimal)) =
        cappedNotional signal snapshot := rfl
  have multiplied :
      exact.multiply (lossBudget snapshot) (ladder signal snapshot) =
        .ok (lossBudget snapshot * (ladder signal snapshot : Decimal)) := rfl
  unfold evaluateWith evaluate
  split
  · rfl
  · dsimp only
    rw [multiplied]
    simp only [bind, Except.bind, exposureRemainderWith_exact, capped]
    cases exposureRemainder snapshot currentExposureUsdt
        (cappedNotional signal snapshot) with
    | none => rfl
    | some notional =>
        dsimp only
        cases orDecimal markPrice signal.entryPrice with
        | none => rfl
        | some price =>
            dsimp only
            split
            · exact sizeAtPriceWith_exact ..
            · rfl

end RiskEngine

end Exact

end SafeSignalTrader
