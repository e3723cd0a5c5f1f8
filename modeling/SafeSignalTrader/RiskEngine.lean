import SafeSignalTrader.DecimalRounding
import SafeSignalTrader.DomainModels

/-!
# The risk engine

`RiskEngine.evaluate` of `core/risk/engine.py` over exact decimals: the
position gate, the leverage ladder, the notional budget, the exposure limit
and the quantity under the trading rules of a symbol.
-/

namespace SafeSignalTrader

open DecimalRounding

/-- Why a risk decision was taken, with the numbers its message shows. -/
inductive RiskReason where
  | ok
  | maxOpenPositions (limit : Int)
  | exposureLimit
  | qtyBelowMin (qty minQty : Decimal)
  | notionalBelowMin (notional : Decimal)
  | notionalNotPositive
  deriving Repr, DecidableEq

/-- The reason text; `render` is Python's `str` of a decimal. -/
def RiskReason.text (render : Decimal → String) : RiskReason → String
  | .ok => "ok"
  | .maxOpenPositions limit => "max_open_positions=" ++ toString limit ++ " reached"
  | .exposureLimit => "exposure limit reached"
  | .qtyBelowMin qty minQty =>
      "qty " ++ render qty ++ " < min_qty " ++ render minQty
  | .notionalBelowMin notional =>
      "notional " ++ render notional ++ " < min_notional"
  | .notionalNotPositive => "notional <= 0"

/-- A risk decision, with a reason of any type. -/
structure RiskDecision (Reason : Type) where
  allowed : Bool
  reason : Reason
  leverage : Int
  notionalUsdt : Decimal
  quantity : Option Decimal
  maxLossUsdt : Option Decimal
  deriving Repr, DecidableEq

namespace RiskEngine

/-- `signal.leverage or 1`, capped by the snapshot. -/
def ladder
    (signal : NormalizedSignal)
    (snapshot : EffectiveConfigSnapshot) : Nat :=
  min
    (match signal.leverage with
      | some 0 => 1
      | some leverage => leverage
      | none => 1)
    snapshot.maxLeverage

/-- `snapshot.max_loss_usdt or Decimal("10")`. -/
def lossBudget (snapshot : EffectiveConfigSnapshot) : Decimal :=
  match snapshot.maxLossUsdt with
  | some loss => if loss = 0 then 10 else loss
  | none => 10

/-- The loss budget times the leverage, under the notional cap if one is set. -/
def cappedNotional
    (signal : NormalizedSignal)
    (snapshot : EffectiveConfigSnapshot) : Decimal :=
  let notional := lossBudget snapshot * (ladder signal snapshot : Decimal)
  match snapshot.maxNotionalUsdt with
  | some cap => min notional cap
  | none => notional

/-- The notional the exposure limit leaves; `none` when nothing remains. -/
def exposureRemainder
    (snapshot : EffectiveConfigSnapshot)
    (currentExposureUsdt notional : Decimal) : Option Decimal :=
  match snapshot.maxNotionalUsdt with
  | some cap =>
      if cap < currentExposureUsdt + notional then
        if cap - currentExposureUsdt ≤ 0 then
          none
        else
          some (cap - currentExposureUsdt)
      else
        some notional
  | none => some notional

/--
The quantity floored to the lot step, lifted to one step when the floor is
empty although the raw quantity reaches the minimum.
-/
def lotQuantity
    (rules : SymbolRules)
    (rawQty qty : Decimal) : Decimal :=
  if 0 < rules.stepSize then
    let floored := quantizeDown rules.stepSize qty
    if floored ≤ 0 ∧ rules.minQty ≤ rawQty then
      rules.stepSize
    else
      floored
  else
    qty

/-- The last check of `evaluate` and its approval. -/
def conclude
    (leverage : Nat)
    (maxLoss notional : Decimal)
    (quantity : Option Decimal) : RiskDecision RiskReason :=
  if notional ≤ 0 then
    { allowed := false
      reason := .notionalNotPositive
      leverage := leverage
      notionalUsdt := 0
      quantity := none
      maxLossUsdt := none }
  else
    { allowed := true
      reason := .ok
      leverage := leverage
      notionalUsdt := notional
      quantity := quantity
      maxLossUsdt := some maxLoss }

section Conclusions

variable {leverage : Nat}
variable {maxLoss notional : Decimal}
variable {quantity : Option Decimal}

theorem conclude_allowed_iff :
    (conclude leverage maxLoss notional quantity).allowed = true ↔
      0 < notional := by
  unfold conclude
  split
  · next empty => simp [empty]
  · next positive => simpa using positive

/-- A conclusion without a quantity has none, approved or not. -/
theorem conclude_none_quantity :
    (conclude leverage maxLoss notional none).quantity = none := by
  unfold conclude
  split <;> rfl

theorem conclude_reason_iff :
    (conclude leverage maxLoss notional quantity).reason = .ok ↔
      (conclude leverage maxLoss notional quantity).allowed = true := by
  unfold conclude
  split
  · simp
  · simp

end Conclusions

/-- The quantity and its checks under the trading rules of a symbol. -/
def sizeUnderRules
    (rules : SymbolRules)
    (leverage : Nat)
    (maxLoss notional price : Decimal) : RiskDecision RiskReason :=
  let rawQty := notional / price
  let qty := lotQuantity rules rawQty (quantizeDown (1 / 100000000) rawQty)
  if qty < rules.minQty then
    { allowed := false
      reason := .qtyBelowMin qty rules.minQty
      leverage := leverage
      notionalUsdt := notional
      quantity := some qty
      maxLossUsdt := some maxLoss }
  else
    let rounded := quantizeDown (1 / 100) (qty * price)
    if rounded < rules.minNotional then
      { allowed := false
        reason := .notionalBelowMin rounded
        leverage := leverage
        notionalUsdt := rounded
        quantity := some qty
        maxLossUsdt := some maxLoss }
    else
      conclude leverage maxLoss rounded (some qty)

/-- The quantity from a usable price, with or without trading rules. -/
def sizeAtPrice
    (symbolRules : Option SymbolRules)
    (leverage : Nat)
    (maxLoss notional price : Decimal) : RiskDecision RiskReason :=
  match symbolRules with
  | some rules => sizeUnderRules rules leverage maxLoss notional price
  | none =>
      conclude leverage maxLoss notional
        (some (quantizeDown (1 / 100000000) (notional / price)))

/-- `RiskEngine.evaluate`. -/
def evaluate
    (signal : NormalizedSignal)
    (snapshot : EffectiveConfigSnapshot)
    (symbolRules : Option SymbolRules := none)
    (currentExposureUsdt : Decimal := 0)
    (openPositionCount : Int := 0)
    (maxOpenPositions : Int := 5)
    (markPrice : Option Decimal := none) : RiskDecision RiskReason :=
  if maxOpenPositions ≤ openPositionCount then
    { allowed := false
      reason := .maxOpenPositions maxOpenPositions
      leverage := 1
      notionalUsdt := 0
      quantity := none
      maxLossUsdt := none }
  else
    let leverage := ladder signal snapshot
    let maxLoss := lossBudget snapshot
    match exposureRemainder snapshot currentExposureUsdt
        (cappedNotional signal snapshot) with
    | none =>
        { allowed := false
          reason := .exposureLimit
          leverage := leverage
          notionalUsdt := 0
          quantity := none
          maxLossUsdt := none }
    | some notional =>
        match orDecimal markPrice signal.entryPrice with
        | some price =>
            if 0 < price then
              sizeAtPrice symbolRules leverage maxLoss notional price
            else
              conclude leverage maxLoss notional none
        | none => conclude leverage maxLoss notional none

end RiskEngine

end SafeSignalTrader
