import SafeSignalTrader.RiskEngine
import Mathlib.Tactic.Linarith

/-!
# The exposure cap of the risk engine

The budget is clipped to the notional the cap leaves, and both roundings only
lower the quantity.  The one later stage that can undo the cap is the lift to
a full lot step; the exact condition under which it does so is stated here.
-/

namespace SafeSignalTrader

open DecimalRounding

namespace RiskEngine

section Remainder

variable {snapshot : EffectiveConfigSnapshot}
variable {cap currentExposureUsdt notional budget : Decimal}

/-- What the exposure limit leaves of a notional, and when it leaves any. -/
theorem exposureRemainder_eq_some_iff
    (capSet : snapshot.maxNotionalUsdt = some cap) :
    exposureRemainder snapshot currentExposureUsdt notional = some budget ↔
      (currentExposureUsdt < cap ∨
          currentExposureUsdt + notional ≤ cap) ∧
        budget = min notional (cap - currentExposureUsdt) := by
  simp only [exposureRemainder, capSet]
  by_cases exceeds : cap < currentExposureUsdt + notional
  · rw [if_pos exceeds]
    have clipped :
        min notional (cap - currentExposureUsdt) =
          cap - currentExposureUsdt :=
      min_eq_right (by linarith)
    rw [clipped]
    by_cases exhausted : cap - currentExposureUsdt ≤ 0
    · rw [if_pos exhausted]
      constructor
      · intro impossible
        cases impossible
      · intro remains
        rcases remains with ⟨left | left, _⟩
        · exact (not_lt.mpr exhausted (sub_pos.mpr left)).elim
        · exact (not_lt.mpr left exceeds).elim
    · rw [if_neg exhausted, Option.some.injEq]
      constructor
      · intro same
        exact ⟨Or.inl (sub_pos.mp (not_le.mp exhausted)), same.symm⟩
      · intro remains
        obtain ⟨_, same⟩ := remains
        exact same.symm
  · rw [if_neg exceeds, Option.some.injEq]
    have within : currentExposureUsdt + notional ≤ cap := not_lt.mp exceeds
    have whole :
        min notional (cap - currentExposureUsdt) = notional :=
      min_eq_left (by linarith)
    rw [whole]
    constructor
    · intro same
      exact ⟨Or.inr within, same.symm⟩
    · intro remains
      obtain ⟨_, same⟩ := remains
      exact same.symm

end Remainder

section Sizing

variable {rules : SymbolRules}
variable {leverage : Nat}
variable {maxLoss notional price rawQty : Decimal}

/-- A lot is one lifted step, or no more than the raw quantity, or empty. -/
theorem lotQuantity_cases
    (rules : SymbolRules)
    (rawQty : Decimal)
    (stepPositive : 0 < rules.stepSize) :
    (lotQuantity rules rawQty (quantizeDown (1 / 100000000) rawQty) =
        rules.stepSize ∧ rules.minQty ≤ rawQty) ∨
      lotQuantity rules rawQty (quantizeDown (1 / 100000000) rawQty) ≤
        rawQty ∨
      lotQuantity rules rawQty (quantizeDown (1 / 100000000) rawQty) ≤ 0 := by
  have tick : (0 : Decimal) < 1 / 100000000 := by norm_num
  simp only [lotQuantity, if_pos stepPositive]
  split
  · next lifted =>
      exact Or.inl ⟨rfl, lifted.2⟩
  · rcases le_total 0 rawQty with nonneg | nonpos
    · have rounded := quantizeDown_nonneg tick nonneg
      have floored := quantizeDown_le stepPositive rounded
      exact Or.inr (Or.inl
        (le_trans floored (quantizeDown_le tick nonneg)))
    · have rounded := quantizeDown_nonpos tick nonpos
      exact Or.inr (Or.inr (quantizeDown_nonpos stepPositive rounded))

/-- Less than one step is lifted to a step once it reaches the minimum. -/
theorem lotQuantity_lifted
    (stepPositive : 0 < rules.stepSize)
    (nonneg : 0 ≤ rawQty)
    (small : rawQty < rules.stepSize)
    (reachesMinimum : rules.minQty ≤ rawQty) :
    lotQuantity rules rawQty (quantizeDown (1 / 100000000) rawQty) =
      rules.stepSize := by
  have tick : (0 : Decimal) < 1 / 100000000 := by norm_num
  have empty :
      quantizeDown rules.stepSize (quantizeDown (1 / 100000000) rawQty) =
        0 :=
    quantizeDown_eq_zero stepPositive (quantizeDown_nonneg tick nonneg)
      (lt_of_le_of_lt (quantizeDown_le tick nonneg) small)
  simp only [lotQuantity, if_pos stepPositive, empty]
  exact if_pos ⟨le_refl 0, reachesMinimum⟩

/-- What an approval under trading rules says about the lot. -/
theorem sizeUnderRules_allowed_iff
    {quantity : Decimal}
    (lot : lotQuantity rules (notional / price)
      (quantizeDown (1 / 100000000) (notional / price)) = quantity) :
    (sizeUnderRules rules leverage maxLoss notional price).allowed = true ↔
      rules.minQty ≤ quantity ∧
        rules.minNotional ≤ quantizeDown (1 / 100) (quantity * price) ∧
          0 < quantizeDown (1 / 100) (quantity * price) := by
  simp only [sizeUnderRules, lot, conclude]
  generalize quantizeDown (1 / 100) (quantity * price) = rounded
  by_cases belowMinimum : quantity < rules.minQty
  · simp [belowMinimum]
  · by_cases worthless : rounded < rules.minNotional
    · simp [belowMinimum, worthless]
    · by_cases empty : rounded ≤ 0
      · simp [belowMinimum, worthless, empty]
      · simp only [belowMinimum, worthless, empty, ↓reduceIte, true_iff]
        exact ⟨not_lt.mp belowMinimum, not_lt.mp worthless,
          not_le.mp empty⟩

/-- An approval under trading rules returns the lot and its rounded value. -/
theorem sizeUnderRules_of_allowed
    {quantity : Decimal}
    (lot : lotQuantity rules (notional / price)
      (quantizeDown (1 / 100000000) (notional / price)) = quantity)
    (allowed :
      (sizeUnderRules rules leverage maxLoss notional price).allowed =
        true) :
    (sizeUnderRules rules leverage maxLoss notional price).quantity =
        some quantity ∧
      (sizeUnderRules rules leverage maxLoss notional price).notionalUsdt =
        quantizeDown (1 / 100) (quantity * price) := by
  obtain ⟨minimum, worth, positive⟩ :=
    (sizeUnderRules_allowed_iff lot).mp allowed
  simp only [sizeUnderRules, lot, conclude, if_neg (not_lt.mpr minimum),
    if_neg (not_lt.mpr worth), if_neg (not_le.mpr positive), and_self]

/--
An approved position is worth no less than its rounded value, and no more than
the budget unless its lot is one lifted step.
-/
theorem sizeUnderRules_affordable_or_step
    {quantity : Decimal}
    (stepPositive : 0 < rules.stepSize)
    (pricePositive : 0 < price)
    (allowed :
      (sizeUnderRules rules leverage maxLoss notional price).allowed = true)
    (sized :
      (sizeUnderRules rules leverage maxLoss notional price).quantity =
        some quantity) :
    (sizeUnderRules rules leverage maxLoss notional price).notionalUsdt ≤
        quantity * price ∧
      (quantity * price ≤ notional ∨
        quantity = rules.stepSize ∧ rules.minQty * price ≤ notional ∧
          rules.minNotional ≤
              quantizeDown (1 / 100) (rules.stepSize * price) ∧
            0 < quantizeDown (1 / 100) (rules.stepSize * price)) := by
  obtain ⟨lotSized, rounded⟩ := sizeUnderRules_of_allowed rfl allowed
  obtain ⟨_, worthTrading, valued⟩ :=
    (sizeUnderRules_allowed_iff rfl).mp allowed
  have sameQuantity := Option.some.inj (lotSized.symm.trans sized)
  rw [sameQuantity] at rounded worthTrading valued
  have cent : (0 : Decimal) < 1 / 100 := by norm_num
  have quantityPositive : 0 < quantity * price := by
    by_contra empty
    exact not_lt.mpr (quantizeDown_nonpos cent (not_lt.mp empty)) valued
  refine ⟨?_, ?_⟩
  · rw [rounded]
    exact quantizeDown_le cent (le_of_lt quantityPositive)
  · rcases lotQuantity_cases rules (notional / price) stepPositive with
      ⟨oneStep, reachesMinimum⟩ | withinRaw | empty
    · rw [sameQuantity] at oneStep
      rw [oneStep] at worthTrading valued
      exact Or.inr ⟨oneStep, (le_div_iff₀ pricePositive).mp reachesMinimum,
        worthTrading, valued⟩
    · rw [sameQuantity] at withinRaw
      exact Or.inl ((le_div_iff₀ pricePositive).mp withinRaw)
    · rw [sameQuantity] at empty
      have worthless : quantity * price ≤ 0 :=
        mul_nonpos_of_nonpos_of_nonneg empty (le_of_lt pricePositive)
      exact absurd quantityPositive (not_lt.mpr worthless)

end Sizing

section Exposure

variable (signal : NormalizedSignal)
variable (snapshot : EffectiveConfigSnapshot)
variable (rules : SymbolRules)
variable (currentExposureUsdt : Decimal)
variable (openPositionCount maxOpenPositions : Int)
variable (cap price : Decimal)

/--
The inputs on which the lot lifted to one step breaks the cap: a position slot
and some budget are left, the budget buys the minimum quantity, one step is
worth trading, and one step does not fit under the cap.
-/
structure LiftedLotOverCap : Prop where
  slotFree : openPositionCount < maxOpenPositions
  budgetLeft :
    currentExposureUsdt < cap ∨
      currentExposureUsdt +
          min (lossBudget snapshot * (ladder signal snapshot : Decimal))
            cap ≤ cap
  buysMinimum :
    rules.minQty * price ≤
      min (lossBudget snapshot * (ladder signal snapshot : Decimal))
        (cap - currentExposureUsdt)
  worthTrading :
    rules.minNotional ≤ quantizeDown (1 / 100) (rules.stepSize * price)
  valued : 0 < quantizeDown (1 / 100) (rules.stepSize * price)
  stepOverCap : cap < currentExposureUsdt + rules.stepSize * price

variable {signal snapshot rules currentExposureUsdt}
variable {openPositionCount maxOpenPositions cap price}

/-- With a usable price, an approval comes from sizing a remaining budget. -/
theorem evaluate_allowed_iff
    {symbolRules : Option SymbolRules}
    {markPrice : Option Decimal}
    (priced : orDecimal markPrice signal.entryPrice = some price)
    (pricePositive : 0 < price) :
    (evaluate signal snapshot symbolRules currentExposureUsdt
        openPositionCount maxOpenPositions markPrice).allowed = true ↔
      openPositionCount < maxOpenPositions ∧
        ∃ notional,
          exposureRemainder snapshot currentExposureUsdt
              (cappedNotional signal snapshot) = some notional ∧
            (sizeAtPrice symbolRules (ladder signal snapshot)
              (lossBudget snapshot) notional price).allowed = true := by
  simp only [evaluate, priced, if_pos pricePositive]
  by_cases full : maxOpenPositions ≤ openPositionCount
  · simp [full]
  · cases remainder :
        exposureRemainder snapshot currentExposureUsdt
          (cappedNotional signal snapshot) with
    | none =>
        simp [full]
    | some notional =>
        simp [full, not_le.mp full]

/-- An approved evaluation is the sizing of its remaining budget. -/
theorem evaluate_eq_sizeAtPrice
    {symbolRules : Option SymbolRules}
    {markPrice : Option Decimal}
    {notional : Decimal}
    (priced : orDecimal markPrice signal.entryPrice = some price)
    (pricePositive : 0 < price)
    (slotFree : openPositionCount < maxOpenPositions)
    (remainder :
      exposureRemainder snapshot currentExposureUsdt
        (cappedNotional signal snapshot) = some notional) :
    evaluate signal snapshot symbolRules currentExposureUsdt
        openPositionCount maxOpenPositions markPrice =
      sizeAtPrice symbolRules (ladder signal snapshot)
        (lossBudget snapshot) notional price := by
  simp only [evaluate, priced, if_pos pricePositive,
    if_neg (not_le.mpr slotFree), remainder]

/-- Clipping to the cap and then to the remainder is clipping once. -/
theorem clipped_budget
    (capSet : snapshot.maxNotionalUsdt = some cap)
    (exposureNonneg : 0 ≤ currentExposureUsdt) :
    min (cappedNotional signal snapshot) (cap - currentExposureUsdt) =
      min (lossBudget snapshot * (ladder signal snapshot : Decimal))
        (cap - currentExposureUsdt) := by
  simp only [cappedNotional, capSet]
  rw [min_assoc, min_eq_right (sub_le_self cap exposureNonneg)]

/-- On these inputs one lifted step is approved. -/
theorem LiftedLotOverCap.approved
    {markPrice : Option Decimal}
    (lifted : LiftedLotOverCap signal snapshot rules currentExposureUsdt
      openPositionCount maxOpenPositions cap price)
    (capSet : snapshot.maxNotionalUsdt = some cap)
    (stepPositive : 0 < rules.stepSize)
    (minimumNonneg : 0 ≤ rules.minQty)
    (exposureNonneg : 0 ≤ currentExposureUsdt)
    (priced : orDecimal markPrice signal.entryPrice = some price)
    (pricePositive : 0 < price) :
    (evaluate signal snapshot (some rules) currentExposureUsdt
        openPositionCount maxOpenPositions markPrice).allowed = true ∧
      (evaluate signal snapshot (some rules) currentExposureUsdt
        openPositionCount maxOpenPositions markPrice).quantity =
          some rules.stepSize := by
  obtain ⟨slotFree, budgetLeft, buysMinimum, worthTrading, valued,
    stepOverCap⟩ := lifted
  rw [← clipped_budget capSet exposureNonneg] at buysMinimum
  have remainder :
      exposureRemainder snapshot currentExposureUsdt
          (cappedNotional signal snapshot) =
        some (min (cappedNotional signal snapshot)
          (cap - currentExposureUsdt)) := by
    rw [exposureRemainder_eq_some_iff capSet]
    refine ⟨?_, rfl⟩
    simpa only [cappedNotional, capSet] using budgetLeft
  generalize min (cappedNotional signal snapshot)
    (cap - currentExposureUsdt) = budget at remainder buysMinimum
  have clipped : budget ≤ cap - currentExposureUsdt := by
    rw [((exposureRemainder_eq_some_iff capSet).mp remainder).2]
    exact min_le_right _ _
  have reachesMinimum : rules.minQty ≤ budget / price :=
    (le_div_iff₀ pricePositive).mpr buysMinimum
  have small : budget / price < rules.stepSize := by
    rw [div_lt_iff₀ pricePositive]
    linarith
  have lot := lotQuantity_lifted stepPositive
    (le_trans minimumNonneg reachesMinimum) small reachesMinimum
  rw [evaluate_eq_sizeAtPrice priced pricePositive slotFree remainder]
  have approved :
      (sizeAtPrice (some rules) (ladder signal snapshot)
        (lossBudget snapshot) budget price).allowed = true :=
    (sizeUnderRules_allowed_iff lot).mpr
      ⟨le_trans reachesMinimum (le_of_lt small), worthTrading, valued⟩
  exact ⟨approved, (sizeUnderRules_of_allowed lot approved).1⟩

end Exposure

/--
The exposure cap holds of an evaluation exactly when its inputs are not those
on which a lot lifted to one step breaks it.
-/
theorem exposureCap
    (signal : NormalizedSignal)
    (snapshot : EffectiveConfigSnapshot)
    (rules : SymbolRules)
    (currentExposureUsdt : Decimal)
    (openPositionCount maxOpenPositions : Int)
    (markPrice : Option Decimal)
    (cap price : Decimal)
    (capSet : snapshot.maxNotionalUsdt = some cap)
    (stepPositive : 0 < rules.stepSize)
    (minimumNonneg : 0 ≤ rules.minQty)
    (exposureNonneg : 0 ≤ currentExposureUsdt)
    (priced : orDecimal markPrice signal.entryPrice = some price)
    (pricePositive : 0 < price) :
    (∀ decision,
        evaluate signal snapshot (some rules) currentExposureUsdt
          openPositionCount maxOpenPositions markPrice = decision →
        decision.allowed = true →
        ∀ quantity, decision.quantity = some quantity →
          currentExposureUsdt + quantity * price ≤ cap ∧
            currentExposureUsdt + decision.notionalUsdt ≤ cap) ↔
      ¬ LiftedLotOverCap signal snapshot rules currentExposureUsdt
        openPositionCount maxOpenPositions cap price := by
  constructor
  · intro capped lifted
    obtain ⟨approved, oneStep⟩ :=
      lifted.approved capSet stepPositive minimumNonneg exposureNonneg
        priced pricePositive
    have within := (capped _ rfl approved rules.stepSize oneStep).1
    exact not_lt.mpr within lifted.stepOverCap
  · intro notLifted decision evaluated approved quantity sized
    subst evaluated
    obtain ⟨slotFree, budget, remainder, sizeApproved⟩ :=
      (evaluate_allowed_iff priced pricePositive).mp approved
    rw [evaluate_eq_sizeAtPrice priced pricePositive slotFree remainder]
      at sized ⊢
    obtain ⟨budgetLeft, clipped⟩ :=
      (exposureRemainder_eq_some_iff capSet).mp remainder
    rw [clipped_budget capSet exposureNonneg] at clipped
    have budgetFits : budget ≤ cap - currentExposureUsdt := by
      rw [clipped]
      exact min_le_right _ _
    obtain ⟨roundedDown, worth⟩ :=
      sizeUnderRules_affordable_or_step stepPositive pricePositive
        sizeApproved sized
    have withinCap : currentExposureUsdt + quantity * price ≤ cap := by
      rcases worth with
        affordable | ⟨oneStep, buysMinimum, worthTrading, valued⟩
      · linarith
      · -- The lot is one lifted step: it fits, or the inputs are excluded.
        by_contra overCap
        apply notLifted
        rw [oneStep] at overCap
        rw [clipped] at buysMinimum
        refine ⟨slotFree, ?_, buysMinimum, worthTrading, valued,
          not_le.mp overCap⟩
        simpa only [cappedNotional, capSet] using budgetLeft
    exact ⟨withinCap, le_trans (add_le_add_right roundedDown _) withinCap⟩

/-- Under the default rules a lot worth 65 stays under a cap of 500. -/
theorem exposureCap_defaultRules :
    (0 : Decimal) + 1 / 1000 * 65000 ≤ 500 ∧
      0 + (evaluate
        (.default 1 "tg" "generic_structured" "1.0.0" "BTCUSDT" .long)
        { EffectiveConfigSnapshot.default "tg" "acc" "p" "1" with
          maxNotionalUsdt := some 500
          maxLossUsdt := some 100 }
        (some (.default "BTCUSDT")) 0 0 5 (some 65000)).notionalUsdt ≤ 500 :=
  (exposureCap
    (.default 1 "tg" "generic_structured" "1.0.0" "BTCUSDT" .long)
    { EffectiveConfigSnapshot.default "tg" "acc" "p" "1" with
      maxNotionalUsdt := some 500
      maxLossUsdt := some 100 }
    (.default "BTCUSDT") 0 0 5 (some 65000) 500 65000 rfl
    (by decide +kernel) (by decide +kernel) (le_refl 0) (by decide +kernel)
    (by decide +kernel)).mpr
    (fun lifted => absurd lifted.stepOverCap (by decide +kernel))
    _ rfl (by decide +kernel) (1 / 1000) (by decide +kernel)

/--
With 10 of a cap of 100 left, a step of 0.001 at a price of 50000 is lifted to
a position worth 50.
-/
theorem exposure_exceeded_by_lift :
    ¬ ∀ (signal : NormalizedSignal)
        (snapshot : EffectiveConfigSnapshot)
        (rules : SymbolRules)
        (currentExposureUsdt : Decimal)
        (openPositionCount maxOpenPositions : Int)
        (markPrice : Option Decimal)
        (cap price : Decimal),
      snapshot.maxNotionalUsdt = some cap →
      0 < rules.stepSize →
      0 ≤ rules.minQty →
      0 ≤ currentExposureUsdt →
      orDecimal markPrice signal.entryPrice = some price →
      0 < price →
      ∀ decision,
        evaluate signal snapshot (some rules) currentExposureUsdt
          openPositionCount maxOpenPositions markPrice = decision →
        decision.allowed = true →
        ∀ quantity, decision.quantity = some quantity →
          currentExposureUsdt + quantity * price ≤ cap ∧
            currentExposureUsdt + decision.notionalUsdt ≤ cap := by
  intro capped
  have overrun := capped
    (.default 1 "tg" "generic_structured" "1.0.0" "BTCUSDT" .long)
    { EffectiveConfigSnapshot.default "tg" "acc" "p" "1" with
      maxNotionalUsdt := some 100 }
    { SymbolRules.default "BTCUSDT" with minQty := 1 / 10000 }
    90 0 5 (some 50000) 100 50000 rfl (by decide +kernel)
    (by decide +kernel) (by decide +kernel) (by decide +kernel)
    (by decide +kernel) _ rfl (by decide +kernel) (1 / 1000)
    (by decide +kernel)
  exact absurd overrun.1 (by decide +kernel)

end RiskEngine

end SafeSignalTrader
