import SafeSignalTrader.DecimalApprovals
import SafeSignalTrader.LateEntryGate
import SafeSignalTrader.TextRemoval
import SafeSignalTrader.UpperCase

/-!
# Trading rules of the exchange

`get_symbol_rules` and `set_leverage` of the exchange adapter.  The published
rules agree with each other, and an entry that is released after sizing under
them is one the exchange takes.
-/

namespace SafeSignalTrader

open DecimalContext
open DecimalRounding
open PythonText
open TextRemoval

namespace ExchangeRules

/-- `symbol.upper().replace("USDT", "")`. -/
def baseAsset (symbol : String) : String :=
  String.ofList (removeAll "USDT".toList (upperText symbol).toList)

/-- `get_symbol_rules`. -/
def getSymbolRules (symbol : String) : SymbolRules :=
  let base := baseAsset symbol
  let tick := if base = "BTC" ∨ base = "ETH" then 1 / 100 else 1 / 10000
  let step := if base = "BTC" then 1 / 1000 else 1 / 100
  let precPrice := if base = "BTC" ∨ base = "ETH" then 2 else 4
  let precQty := if base = "BTC" then 3 else 2
  { symbol := upperText symbol
    pricePrecision := precPrice
    quantityPrecision := precQty
    minQty := step
    minNotional := 5
    tickSize := tick
    stepSize := step }

/-- `BINANCE_CAPABILITIES.max_leverage`. -/
def maxLeverage : Int := 125

/-- `set_leverage`, which checks the leverage and keeps nothing. -/
def setLeverage (_symbol : String) (leverage : Int) :
    Except PyException Unit :=
  if leverage < 1 ∨ maxLeverage < leverage then
    .error (.valueError ("leverage " ++ toString leverage ++
      " out of range 1.." ++ toString maxLeverage))
  else
    .ok ()

example : (getSymbolRules "btcusdt").stepSize = 1 / 1000 := by
  decide +kernel

/-- Rules whose steps are the last places of their precisions. -/
structure Matched (rules : SymbolRules) : Prop where
  step : rules.stepSize = 1 / 10 ^ rules.quantityPrecision
  tick : rules.tickSize = 1 / 10 ^ rules.pricePrecision
  minQty : rules.minQty = rules.stepSize
  places : 0 ≤ rules.quantityPrecision ∧ rules.quantityPrecision ≤ 8

theorem getSymbolRules_matched (symbol : String) :
    Matched (getSymbolRules symbol) := by
  unfold getSymbolRules
  dsimp only
  by_cases bitcoin : baseAsset symbol = "BTC"
  · simp only [bitcoin, ↓reduceIte, true_or]
    exact ⟨by norm_num, by norm_num, rfl, by norm_num⟩
  · by_cases ether : baseAsset symbol = "ETH"
    · have differs : ¬ "ETH" = "BTC" := by decide
      simp only [ether, differs, ↓reduceIte, or_true]
      exact ⟨by norm_num, by norm_num, rfl, by norm_num⟩
    · simp only [bitcoin, ether, ↓reduceIte, or_self]
      exact ⟨by norm_num, by norm_num, rfl, by norm_num⟩

/-- The exchange takes the leverage of the ladder. -/
theorem setLeverage_ladder
    (symbol : String)
    (signal : NormalizedSignal)
    (snapshot : EffectiveConfigSnapshot) :
    setLeverage symbol (RiskEngine.ladder signal snapshot) = .ok () := by
  have atMost : RiskEngine.ladder signal snapshot ≤ 125 :=
    le_trans (min_le_right _ _) snapshot.maxLeverageInRange.2
  have atLeast : 1 ≤ RiskEngine.ladder signal snapshot := by
    apply le_min _ snapshot.maxLeverageInRange.1
    cases set : signal.leverage with
    | none => exact le_rfl
    | some leverage =>
        cases leverage with
        | zero => exact le_rfl
        | succ leverage => exact Nat.succ_pos leverage
  apply if_neg
  rw [maxLeverage]
  omega

section Sizing

open RiskEngine

variable {signal : NormalizedSignal}
variable {snapshot : EffectiveConfigSnapshot}
variable {rules : SymbolRules}
variable {currentExposureUsdt : Decimal}
variable {openPositionCount maxOpenPositions : Int}
variable {markPrice : Option Decimal}
variable {quantity : Decimal}

/-- A quantity that the exchange takes at a price, its worth to 28 digits. -/
structure Tradable
    (rules : SymbolRules)
    (price quantity : Decimal) : Prop where
  places :
    ∃ lots : Nat, 0 < lots ∧
      quantity = lots / 10 ^ rules.quantityPrecision
  minQty : rules.minQty ≤ quantity
  minNotional :
    rules.minNotional ≤ defaultContext.rounded (quantity * price)

theorem Matched.step_pos (matched : Matched rules) : 0 < rules.stepSize := by
  rw [matched.step]
  exact div_pos one_pos (zpow_pos (by norm_num) _)

/-- A whole number of steps of few digits is kept in 28 digits. -/
theorem Matched.rounded_lots
    (matched : Matched rules)
    {count : Int}
    (few : |count| < 10 ^ defaultContext.precision) :
    defaultContext.rounded (count * rules.stepSize) =
      count * rules.stepSize := by
  have isStep :
      rules.stepSize = (10 : Decimal) ^ (-rules.quantityPrecision) := by
    rw [matched.step, zpow_neg, one_div]
  rw [isStep]
  apply Context.rounded_of_digits _ few rfl
  have places := matched.places
  have tiny : defaultContext.etiny ≤ -8 := by decide
  omega

/-- Under matched rules a lot is a whole number of steps. -/
theorem Matched.lot_eq_steps
    (matched : Matched rules)
    {budget price lot : Decimal}
    (buys : BuysLot contextArithmetic rules budget price lot) :
    ∃ count : Int, lot = count * rules.stepSize := by
  obtain ⟨rawQty, qty, _, _, isLot⟩ := buys
  rw [lotQuantityWith, if_pos matched.step_pos] at isLot
  obtain ⟨lots, counted, rest⟩ := bind_eq_ok_iff.mp isLot
  obtain ⟨floored, multiplied, lifted⟩ := bind_eq_ok_iff.mp rest
  split at lifted
  · cases lifted
    exact ⟨1, by rw [Int.cast_one, one_mul]⟩
  · cases lifted
    obtain ⟨_, isFloored⟩ := finalize_eq_ok_iff.mp multiplied
    obtain ⟨isCount, few⟩ := eq_of_divideInt_eq_ok counted
    rw [isCount, matched.rounded_lots few] at isFloored
    exact ⟨_, isFloored.symm⟩

/-- A positive number of steps is a number of lots in the last place. -/
theorem Matched.places_of_steps
    (matched : Matched rules)
    {count : Int}
    (isLots : quantity = count * rules.stepSize)
    (positive : 0 < quantity) :
    ∃ lots : Nat, 0 < lots ∧
      quantity = lots / 10 ^ rules.quantityPrecision := by
  have countPositive : 0 < count := by
    rw [isLots] at positive
    exact Int.cast_pos.mp
      (pos_of_mul_pos_left positive (le_of_lt matched.step_pos))
  obtain ⟨lots, rfl⟩ := Int.eq_ofNat_of_zero_le (le_of_lt countPositive)
  refine ⟨lots, by omega, ?_⟩
  rw [isLots, matched.step, Int.cast_natCast, mul_one_div]

/-- What is approved under matched rules is tradable at the price used. -/
theorem tradable_of_approves
    (matched : Matched rules)
    {leverage : Nat}
    {maxLoss budget : Decimal}
    {usablePrice : Option Decimal}
    {decision : RiskDecision RiskReason}
    (approves :
      Approves contextArithmetic (some rules) usablePrice leverage maxLoss
        budget decision)
    (sized : decision.quantity = some quantity) :
    ∃ price, usablePrice = some price ∧ 0 < price ∧
      Tradable rules price quantity := by
  cases approves with
  | unpriced => cases sized
  | unruled noRules => cases noRules
  | ruled underRules priced pricePositive buys reaches worth trades
      positive =>
      cases underRules
      cases sized
      have lotPositive := worth.lot_pos pricePositive positive
      obtain ⟨count, isLots⟩ := matched.lot_eq_steps buys
      refine ⟨_, priced, pricePositive,
        matched.places_of_steps isLots lotPositive, reaches, ?_⟩
      obtain ⟨product, multiplied, quantized⟩ := worth
      obtain ⟨_, isProduct⟩ := finalize_eq_ok_iff.mp multiplied
      have isCents := eq_of_quantize_eq_ok quantized
      rw [isCents] at trades positive
      have worthPositive := pos_of_quantizeDown_pos (pow_pos _) positive
      rw [isProduct]
      exact le_trans trades
        (quantizeDown_le (pow_pos _) (le_of_lt worthPositive))

end Sizing

/--
The exchange takes every released entry: sized under the rules it publishes
for a symbol, an entry that is not blocked has a whole number of lots within
the published precision, reaches the minimum quantity and, to 28 digits, the
minimum notional at the price it was sized at, and a leverage that the
exchange sets.
-/
theorem releasedEntryTradable
    (symbol : String)
    (tradeId : UUID)
    (signal : NormalizedSignal)
    (snapshot : EffectiveConfigSnapshot)
    (currentExposureUsdt : Decimal)
    (openPositionCount maxOpenPositions attempt : Int)
    (markPrice : Option Decimal)
    (risk : RiskDecision RiskReason)
    (planned : EntryPlan RiskReason)
    (evaluated :
      RiskEngine.evaluateWith contextArithmetic signal snapshot
          (some (getSymbolRules symbol)) currentExposureUsdt
          openPositionCount maxOpenPositions markPrice =
        .ok risk)
    (plans :
      EntryPlanner.plan contextArithmetic tradeId signal snapshot risk attempt
        markPrice = .ok planned)
    (released : planned.blocked = false) :
    (∃ price,
        orDecimal markPrice signal.entryPrice = some price ∧ 0 < price ∧
          Tradable (getSymbolRules symbol) price planned.quantity) ∧
      setLeverage symbol planned.leverage = .ok () := by
  have carried := EntryPlanner.plan_carriesEntry plans released
  have passes := EntryPlanner.plan_opens_iff.mp ⟨planned, plans, released⟩
  have allowed : risk.allowed = true :=
    (EntryPlanner.sized_of_not_refused passes.1).1.allowed
  obtain ⟨_, budget, _, approves⟩ :=
    RiskEngine.evaluateWith_approves_iff.mp ⟨evaluated, allowed⟩
  refine ⟨tradable_of_approves (getSymbolRules_matched symbol) approves
    carried.quantity, ?_⟩
  rw [carried.leverage, approves.reported.1]
  exact setLeverage_ladder symbol signal snapshot

/-- Ten dollars buy ten lots of ether at a price of a hundred. -/
theorem releasedEntryTradable_ether :
    ∃ price,
      orDecimal (some 100) none = some price ∧ 0 < price ∧
        Tradable (getSymbolRules "ethusdt") price (1 / 10) := by
  have evaluated :
      RiskEngine.evaluateWith contextArithmetic
          (.default 1 "src_demo_alpha" "generic_structured" "1.0.0" "ETHUSDT"
            .long)
          (.default "src_demo_alpha" "acc_demo_1" "profile_default" "1.0.0")
          (some (getSymbolRules "ethusdt")) 0 0 5 (some 100) =
        .ok (RiskEngine.approval 1 10 10 (some (1 / 10))) :=
    toOption_eq_some_iff.mp (by decide +kernel)
  have terms :
      EntryPlanner.entryTerms contextArithmetic
          (.default 1 "src_demo_alpha" "generic_structured" "1.0.0" "ETHUSDT"
            .long)
          (RiskEngine.approval 1 10 10 (some (1 / 10))) (some 100) =
        .ok ⟨1 / 10, none, none⟩ :=
    toOption_eq_some_iff.mp (by decide +kernel)
  exact (releasedEntryTradable "ethusdt" 7 _ _ 0 0 5 0 (some 100) _ _
    evaluated (EntryPlanner.plan_eq_ok_iff.mpr ⟨_, terms, by decide, rfl⟩)
    rfl).1

end ExchangeRules

end SafeSignalTrader
