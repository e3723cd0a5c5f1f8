import SafeSignalTrader.RiskSizing

/-!
# Tighter limits

Two evaluations of one signal at one price under one set of trading rules: the
budget, the lot and every exit are monotone in the limits, the lift of an
empty lot to one step included.
-/

namespace SafeSignalTrader

open DecimalRounding

namespace RiskEngine

/-- The limits an evaluation is called with. -/
structure RiskLimits where
  snapshot : EffectiveConfigSnapshot
  currentExposureUsdt : Decimal
  openPositionCount : Int
  maxOpenPositions : Int

/-- An evaluation under limits. -/
def evaluateUnder
    (signal : NormalizedSignal)
    (symbolRules : Option SymbolRules)
    (markPrice : Option Decimal)
    (limits : RiskLimits) : RiskDecision RiskReason :=
  evaluate signal limits.snapshot symbolRules limits.currentExposureUsdt
    limits.openPositionCount limits.maxOpenPositions markPrice

/-- Limits that are at least as tight as others in every respect. -/
structure AtLeastAsTight (tight loose : RiskLimits) : Prop where
  maxLossUsdt :
    ∃ tightLoss looseLoss,
      tight.snapshot.maxLossUsdt = some tightLoss ∧
        loose.snapshot.maxLossUsdt = some looseLoss ∧
          0 < tightLoss ∧ tightLoss ≤ looseLoss
  maxLeverage : tight.snapshot.maxLeverage ≤ loose.snapshot.maxLeverage
  maxNotionalUsdt :
    ∀ looseCap, loose.snapshot.maxNotionalUsdt = some looseCap →
      ∃ tightCap, tight.snapshot.maxNotionalUsdt = some tightCap ∧
        tightCap ≤ looseCap
  currentExposureUsdt :
    loose.currentExposureUsdt ≤ tight.currentExposureUsdt
  openPositionCount : loose.openPositionCount ≤ tight.openPositionCount
  maxOpenPositions : tight.maxOpenPositions ≤ loose.maxOpenPositions

/-- An approval that is no bigger than another one. -/
structure NoBigger (smaller bigger : RiskDecision RiskReason) : Prop where
  allowed : bigger.allowed = true
  quantity :
    ∃ smallerQuantity biggerQuantity,
      smaller.quantity = some smallerQuantity ∧
        bigger.quantity = some biggerQuantity ∧
          smallerQuantity ≤ biggerQuantity
  notionalUsdt : smaller.notionalUsdt ≤ bigger.notionalUsdt
  leverage : smaller.leverage ≤ bigger.leverage

/-- A notional within a cap and what the exposure leaves of it. -/
def withinCap
    (maxNotionalUsdt : Option Decimal)
    (currentExposureUsdt notional : Decimal) : Decimal :=
  match maxNotionalUsdt with
  | some cap => min (min notional cap) (cap - currentExposureUsdt)
  | none => notional

section Budget

variable {signal : NormalizedSignal}
variable {tight loose : RiskLimits}

theorem openBudget_eq_withinCap
    {snapshot : EffectiveConfigSnapshot}
    {currentExposureUsdt : Decimal} :
    openBudget signal snapshot currentExposureUsdt =
      withinCap snapshot.maxNotionalUsdt currentExposureUsdt
        (lossBudget snapshot * (ladder signal snapshot : Decimal)) :=
  rfl

/-- Neither clip raises a notional. -/
theorem withinCap_le
    (maxNotionalUsdt : Option Decimal)
    (currentExposureUsdt notional : Decimal) :
    withinCap maxNotionalUsdt currentExposureUsdt notional ≤ notional := by
  unfold withinCap
  cases maxNotionalUsdt with
  | none => exact le_rfl
  | some cap => exact le_trans (min_le_left _ _) (min_le_left _ _)

theorem ladder_mono (tighter : AtLeastAsTight tight loose) :
    ladder signal tight.snapshot ≤ ladder signal loose.snapshot :=
  min_le_min_left _ tighter.maxLeverage

/-- A tighter loss and a lower leverage give a smaller notional. -/
theorem notional_mono (tighter : AtLeastAsTight tight loose) :
    lossBudget tight.snapshot * (ladder signal tight.snapshot : Decimal) ≤
      lossBudget loose.snapshot *
        (ladder signal loose.snapshot : Decimal) := by
  obtain ⟨tightLoss, looseLoss, tightSet, looseSet, positive, below⟩ :=
    tighter.maxLossUsdt
  have loosePositive : 0 < looseLoss := lt_of_lt_of_le positive below
  rw [lossBudget_of_ne_zero tightSet (ne_of_gt positive),
    lossBudget_of_ne_zero looseSet (ne_of_gt loosePositive)]
  exact mul_le_mul below (Nat.cast_le.mpr (ladder_mono tighter))
    (Nat.cast_nonneg _) (le_of_lt loosePositive)

/-- Tighter limits leave a smaller budget open. -/
theorem openBudget_mono (tighter : AtLeastAsTight tight loose) :
    openBudget signal tight.snapshot tight.currentExposureUsdt ≤
      openBudget signal loose.snapshot loose.currentExposureUsdt := by
  have smaller := @notional_mono signal _ _ tighter
  rw [openBudget_eq_withinCap, openBudget_eq_withinCap]
  cases looseSet : loose.snapshot.maxNotionalUsdt with
  | none => exact le_trans (withinCap_le _ _ _) smaller
  | some looseCap =>
      obtain ⟨tightCap, tightSet, capBelow⟩ :=
        tighter.maxNotionalUsdt looseCap looseSet
      rw [tightSet]
      exact min_le_min (min_le_min smaller capBelow)
        (sub_le_sub capBelow tighter.currentExposureUsdt)

end Budget

section Lot

variable {rules : SymbolRules}
variable {symbolRules : Option SymbolRules}
variable {tightRaw looseRaw price : Decimal}

/-- A larger raw quantity never gives a smaller lot. -/
theorem lotQuantity_mono
    (stepPositive : 0 < rules.stepSize)
    (below : tightRaw ≤ looseRaw) :
    lotQuantity rules tightRaw (quantizeDown (1 / 100000000) tightRaw) ≤
      lotQuantity rules looseRaw
        (quantizeDown (1 / 100000000) looseRaw) := by
  have floored :
      quantizeDown rules.stepSize (quantizeDown (1 / 100000000) tightRaw) ≤
        quantizeDown rules.stepSize
          (quantizeDown (1 / 100000000) looseRaw) :=
    quantizeDown_mono stepPositive (quantizeDown_mono (by norm_num) below)
  simp only [lotQuantity, if_pos stepPositive]
  split
  · next tightLifted =>
      split
      · exact le_rfl
      · next looseKept =>
          -- The larger quantity reaches the minimum too, so its floor is
          -- at least one step.
          have reaches : rules.minQty ≤ looseRaw :=
            le_trans tightLifted.2 below
          apply quantum_le_quantizeDown stepPositive
          by_contra empty
          exact looseKept ⟨not_lt.mp empty, reaches⟩
  · split
    · next looseLifted =>
        exact le_trans floored
          (le_trans looseLifted.1 (le_of_lt stepPositive))
    · exact floored

/-- More budget is sized to no less, and stays approved. -/
theorem sizeAtPrice_mono
    {tightLeverage looseLeverage : Nat}
    {tightLoss looseLoss tightBudget looseBudget : Decimal}
    (stepPositive :
      ∀ rules, symbolRules = some rules → 0 < rules.stepSize)
    (pricePositive : 0 < price)
    (below : tightBudget ≤ looseBudget)
    (leverageBelow : tightLeverage ≤ looseLeverage)
    (allowed :
      (sizeAtPrice symbolRules tightLeverage tightLoss tightBudget
        price).allowed = true) :
    NoBigger
      (sizeAtPrice symbolRules tightLeverage tightLoss tightBudget price)
      (sizeAtPrice symbolRules looseLeverage looseLoss looseBudget
        price) := by
  have rawBelow : tightBudget / price ≤ looseBudget / price :=
    div_le_div_of_nonneg_right below (le_of_lt pricePositive)
  have cent : (0 : Decimal) < 1 / 100 := by norm_num
  cases symbolRules with
  | none =>
      have loosePositive :=
        lt_of_lt_of_le (conclude_allowed_iff.mp allowed) below
      have looseAllowed :
          (sizeAtPrice none looseLeverage looseLoss looseBudget
            price).allowed = true :=
        conclude_allowed_iff.mpr loosePositive
      simp only [sizeAtPrice] at allowed looseAllowed ⊢
      rw [conclude_of_allowed allowed, conclude_of_allowed looseAllowed]
      exact {
        allowed := rfl
        quantity := ⟨_, _, rfl, rfl, quantizeDown_mono (by norm_num) rawBelow⟩
        notionalUsdt := below
        leverage := Int.ofNat_le.mpr leverageBelow }
  | some rules =>
      have lotBelow := lotQuantity_mono (stepPositive rules rfl) rawBelow
      have worthBelow :=
        quantizeDown_mono cent
          (mul_le_mul_of_nonneg_right lotBelow (le_of_lt pricePositive))
      obtain ⟨minimum, worth, valued⟩ :=
        (sizeUnderRules_allowed_iff rfl).mp allowed
      have looseAllowed :
          (sizeAtPrice (some rules) looseLeverage looseLoss looseBudget
            price).allowed = true :=
        (sizeUnderRules_allowed_iff rfl).mpr
          ⟨le_trans minimum lotBelow, le_trans worth worthBelow,
            lt_of_lt_of_le valued worthBelow⟩
      obtain ⟨tightLot, tightWorth⟩ := sizeUnderRules_of_allowed rfl allowed
      obtain ⟨looseLot, looseWorth⟩ :=
        sizeUnderRules_of_allowed rfl looseAllowed
      refine ⟨looseAllowed, ⟨_, _, tightLot, looseLot, lotBelow⟩, ?_, ?_⟩
      · simp only [sizeAtPrice]
        rw [tightWorth, looseWorth]
        exact worthBelow
      · rw [(sizeAtPrice_of_allowed allowed).1,
          (sizeAtPrice_of_allowed looseAllowed).1]
        exact Int.ofNat_le.mpr leverageBelow

end Lot

/--
Tighter limits never give a bigger trade: what is allowed under them is
allowed under looser ones, with no less quantity, notional and leverage.
-/
theorem tighterLimits
    (signal : NormalizedSignal)
    (symbolRules : Option SymbolRules)
    (markPrice : Option Decimal)
    (price : Decimal)
    (tight loose : RiskLimits)
    (priced : orDecimal markPrice signal.entryPrice = some price)
    (pricePositive : 0 < price)
    (rulesPositive :
      ∀ rules, symbolRules = some rules →
        0 < rules.stepSize ∧ 0 < rules.minQty)
    (tighter : AtLeastAsTight tight loose)
    (allowed :
      (evaluateUnder signal symbolRules markPrice tight).allowed = true) :
    NoBigger (evaluateUnder signal symbolRules markPrice tight)
      (evaluateUnder signal symbolRules markPrice loose) := by
  have minimumPositive :
      ∀ rules, symbolRules = some rules → 0 < rules.minQty :=
    fun rules present => (rulesPositive rules present).2
  obtain ⟨tightFree, tightOpen, sized⟩ :=
    (evaluate_allowed_iff_budget minimumPositive priced pricePositive).mp
      allowed
  have budgetBelow := @openBudget_mono signal _ _ tighter
  have looseOpen := lt_of_lt_of_le tightOpen budgetBelow
  have looseFree : loose.openPositionCount < loose.maxOpenPositions :=
    lt_of_le_of_lt tighter.openPositionCount
      (lt_of_lt_of_le tightFree tighter.maxOpenPositions)
  unfold evaluateUnder
  rw [evaluate_priced tightFree tightOpen priced pricePositive,
    evaluate_priced looseFree looseOpen priced pricePositive]
  exact sizeAtPrice_mono
    (fun rules present => (rulesPositive rules present).1) pricePositive
    budgetBelow (ladder_mono tighter) sized

/-- Limits with a loss budget, a cap and an exposure. -/
def exampleLimits (loss cap exposure : Decimal) : RiskLimits where
  snapshot :=
    { EffectiveConfigSnapshot.default "tg" "acc" "p" "1" with
      maxNotionalUsdt := some cap
      maxLossUsdt := some loss }
  currentExposureUsdt := exposure
  openPositionCount := 1
  maxOpenPositions := 3

/-- A loss of 100 with 50 at risk trades no more than a loss of 200. -/
theorem tighterLimits_defaultRules :
    NoBigger
      (evaluateUnder
        (.default 1 "tg" "generic_structured" "1.0.0" "BTCUSDT" .long)
        (some (.default "BTCUSDT")) (some 65000) (exampleLimits 100 500 50))
      (evaluateUnder
        (.default 1 "tg" "generic_structured" "1.0.0" "BTCUSDT" .long)
        (some (.default "BTCUSDT")) (some 65000)
        (exampleLimits 200 600 0)) :=
  tighterLimits
    (.default 1 "tg" "generic_structured" "1.0.0" "BTCUSDT" .long)
    (some (.default "BTCUSDT")) (some 65000) 65000 _ _ (by decide +kernel)
    (by norm_num)
    (by
      intro rules present
      cases present
      decide +kernel)
    { maxLossUsdt := ⟨100, 200, rfl, rfl, by norm_num, by norm_num⟩
      maxLeverage := le_rfl
      maxNotionalUsdt := by
        intro looseCap present
        cases present
        exact ⟨500, rfl, by norm_num⟩
      currentExposureUsdt := by norm_num [exampleLimits]
      openPositionCount := le_rfl
      maxOpenPositions := le_rfl }
    (by decide +kernel)

end RiskEngine

end SafeSignalTrader
