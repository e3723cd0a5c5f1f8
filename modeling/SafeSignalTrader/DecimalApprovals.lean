import SafeSignalTrader.DecimalSizing

/-!
# Approvals of the risk engine

What an evaluation that returns an approval has computed on the way, over any
arithmetic, and the budget it sizes in the default context.
-/

namespace SafeSignalTrader

open DecimalContext DecimalRounding

namespace RiskEngine

/-- An approval with the reason `ok`. -/
def approval
    (leverage : Nat)
    (maxLoss notional : Decimal)
    (quantity : Option Decimal) : RiskDecision RiskReason where
  allowed := true
  reason := .ok
  leverage := leverage
  notionalUsdt := notional
  quantity := quantity
  maxLossUsdt := some maxLoss

section Conclusions

variable {leverage : Nat}
variable {maxLoss notional : Decimal}
variable {quantity : Option Decimal}

/-- A conclusion is an approval exactly of a positive notional. -/
theorem conclude_of_pos (positive : 0 < notional) :
    conclude leverage maxLoss notional quantity =
      approval leverage maxLoss notional quantity :=
  if_neg (not_le.mpr positive)

end Conclusions

variable (arithmetic : DecimalArithmetic)

/-- The budget that `evaluate` sizes; `none` when the exposure leaves none. -/
def openBudgetWith
    (signal : NormalizedSignal)
    (snapshot : EffectiveConfigSnapshot)
    (currentExposureUsdt : Decimal) :
    Except DecimalSignal (Option Decimal) := do
  let notional ←
    arithmetic.multiply (lossBudget snapshot) (ladder signal snapshot)
  exposureRemainderWith arithmetic snapshot currentExposureUsdt
    (underCap snapshot notional)

/-- The sizing of a budget at the price that is usable. -/
def sizeBudgetWith
    (symbolRules : Option SymbolRules)
    (usablePrice : Option Decimal)
    (leverage : Nat)
    (maxLoss budget : Decimal) :
    Except DecimalSignal (RiskDecision RiskReason) :=
  match usablePrice with
  | some price =>
      if 0 < price then
        sizeAtPriceWith arithmetic symbolRules leverage maxLoss budget price
      else
        .ok (conclude leverage maxLoss budget none)
  | none => .ok (conclude leverage maxLoss budget none)

/-- The lot that trading rules make of a budget at a price. -/
structure BuysLot
    (rules : SymbolRules)
    (budget price lot : Decimal) : Prop where
  computed :
    ∃ rawQty qty,
      arithmetic.divide budget price = .ok rawQty ∧
        arithmetic.quantize (-8) rawQty = .ok qty ∧
          lotQuantityWith arithmetic rules rawQty qty = .ok lot

/-- A lot in whole cents at a price. -/
structure WorthCents (price lot cents : Decimal) : Prop where
  computed :
    ∃ worth, arithmetic.multiply lot price = .ok worth ∧
      arithmetic.quantize (-2) worth = .ok cents

/-- The approvals of a budget, by how they are sized. -/
inductive Approves
    (symbolRules : Option SymbolRules)
    (usablePrice : Option Decimal)
    (leverage : Nat)
    (maxLoss budget : Decimal) : RiskDecision RiskReason → Prop where
  | unpriced
      (noPrice : ∀ price, usablePrice = some price → price ≤ 0)
      (positive : 0 < budget) :
      Approves symbolRules usablePrice leverage maxLoss budget
        (approval leverage maxLoss budget none)
  | unruled
      {price rawQty qty : Decimal}
      (noRules : symbolRules = none)
      (priced : usablePrice = some price)
      (pricePositive : 0 < price)
      (divided : arithmetic.divide budget price = .ok rawQty)
      (quantized : arithmetic.quantize (-8) rawQty = .ok qty)
      (positive : 0 < budget) :
      Approves symbolRules usablePrice leverage maxLoss budget
        (approval leverage maxLoss budget (some qty))
  | ruled
      {rules : SymbolRules}
      {price lot cents : Decimal}
      (underRules : symbolRules = some rules)
      (priced : usablePrice = some price)
      (pricePositive : 0 < price)
      (buys : BuysLot arithmetic rules budget price lot)
      (reaches : rules.minQty ≤ lot)
      (worth : WorthCents arithmetic price lot cents)
      (trades : rules.minNotional ≤ cents)
      (positive : 0 < cents) :
      Approves symbolRules usablePrice leverage maxLoss budget
        (approval leverage maxLoss cents (some lot))

variable {arithmetic}
variable {signal : NormalizedSignal}
variable {snapshot : EffectiveConfigSnapshot}
variable {symbolRules : Option SymbolRules}
variable {currentExposureUsdt : Decimal}
variable {openPositionCount maxOpenPositions : Int}
variable {markPrice : Option Decimal}
variable {decision : RiskDecision RiskReason}

/-- An approval reports the leverage and the loss budget it was sized with. -/
theorem Approves.reported
    {usablePrice : Option Decimal}
    {leverage : Nat}
    {maxLoss budget : Decimal}
    (approves :
      Approves arithmetic symbolRules usablePrice leverage maxLoss budget
        decision) :
    decision.leverage = leverage ∧ decision.maxLossUsdt = some maxLoss := by
  cases approves with
  | unpriced => exact ⟨rfl, rfl⟩
  | unruled => exact ⟨rfl, rfl⟩
  | ruled => exact ⟨rfl, rfl⟩

/-- The checks under rules approve exactly lots that are worth trading. -/
theorem checkUnderRulesWith_approves_iff
    {rules : SymbolRules}
    {leverage : Nat}
    {maxLoss notional price lot : Decimal} :
    (checkUnderRulesWith arithmetic rules leverage maxLoss notional price
          lot = .ok decision ∧
        decision.allowed = true) ↔
      ∃ cents,
        rules.minQty ≤ lot ∧ WorthCents arithmetic price lot cents ∧
          rules.minNotional ≤ cents ∧ 0 < cents ∧
            decision = approval leverage maxLoss cents (some lot) := by
  unfold checkUnderRulesWith
  split
  · next below =>
      refine iff_of_false ?_ ?_
      · rintro ⟨returned, allowed⟩
        cases returned
        cases allowed
      · rintro ⟨_, reaches, _⟩
        exact absurd below (not_lt.mpr reaches)
  · next notBelow =>
      constructor
      · rintro ⟨returned, allowed⟩
        obtain ⟨worth, multiplied, rest⟩ := bind_eq_ok_iff.mp returned
        obtain ⟨cents, quantized, checked⟩ := bind_eq_ok_iff.mp rest
        split at checked
        · cases checked
          cases allowed
        · next worthTrading =>
            cases checked
            have positive := conclude_allowed_iff.mp allowed
            exact ⟨cents, not_lt.mp notBelow,
              ⟨worth, multiplied, quantized⟩, not_lt.mp worthTrading,
              positive, conclude_of_pos positive⟩
      · rintro ⟨cents, _, ⟨worth, multiplied, quantized⟩, worthTrading,
          positive, rfl⟩
        refine ⟨?_, rfl⟩
        rw [multiplied]
        simp only [bind, Except.bind, quantized,
          if_neg (not_lt.mpr worthTrading), conclude_of_pos positive]
        rfl

/-- An evaluation with a free slot sizes its budget. -/
theorem evaluateWith_of_free
    (slotFree : openPositionCount < maxOpenPositions) :
    evaluateWith arithmetic signal snapshot symbolRules currentExposureUsdt
        openPositionCount maxOpenPositions markPrice =
      openBudgetWith arithmetic signal snapshot currentExposureUsdt >>= fun
        | none =>
            .ok {
              allowed := false
              reason := .exposureLimit
              leverage := ladder signal snapshot
              notionalUsdt := 0
              quantity := none
              maxLossUsdt := none }
        | some budget =>
            sizeBudgetWith arithmetic symbolRules
              (orDecimal markPrice signal.entryPrice) (ladder signal snapshot)
              (lossBudget snapshot) budget := by
  rw [evaluateWith, if_neg (not_le.mpr slotFree), openBudgetWith, bind_assoc]
  rfl

/-- The approvals of a sizing at a price. -/
theorem sizeAtPriceWith_approves_iff
    {leverage : Nat}
    {maxLoss budget price : Decimal}
    (pricePositive : 0 < price) :
    (sizeAtPriceWith arithmetic symbolRules leverage maxLoss budget price =
          .ok decision ∧
        decision.allowed = true) ↔
      Approves arithmetic symbolRules (some price) leverage maxLoss budget
        decision := by
  constructor
  · rintro ⟨returned, allowed⟩
    obtain ⟨rawQty, divided, rest⟩ := bind_eq_ok_iff.mp returned
    obtain ⟨qty, quantized, sized⟩ := bind_eq_ok_iff.mp rest
    cases symbolRules with
    | none =>
        cases sized
        have positive := conclude_allowed_iff.mp allowed
        rw [conclude_of_pos positive]
        exact .unruled rfl rfl pricePositive divided quantized positive
    | some rules =>
        obtain ⟨lot, isLot, checked⟩ := bind_eq_ok_iff.mp sized
        obtain ⟨cents, reaches, worth, trades, positive, rfl⟩ :=
          checkUnderRulesWith_approves_iff.mp ⟨checked, allowed⟩
        exact .ruled rfl rfl pricePositive
          ⟨rawQty, qty, divided, quantized, isLot⟩ reaches worth trades
          positive
  · intro approves
    cases approves with
    | unpriced noPrice _ =>
        exact absurd pricePositive (not_lt.mpr (noPrice price rfl))
    | unruled noRules priced _ divided quantized positive =>
        subst noRules
        cases priced
        refine ⟨?_, rfl⟩
        rw [sizeAtPriceWith, divided]
        simp only [bind, Except.bind, quantized, conclude_of_pos positive]
        rfl
    | ruled underRules priced _ buys reaches worth trades positive =>
        subst underRules
        cases priced
        obtain ⟨rawQty, qty, divided, quantized, isLot⟩ := buys
        refine ⟨?_, rfl⟩
        rw [sizeAtPriceWith, divided]
        simp only [bind, Except.bind, quantized, isLot]
        exact (checkUnderRulesWith_approves_iff.mpr
          ⟨_, reaches, worth, trades, positive, rfl⟩).1

/-- Without a usable price the whole budget is approved. -/
theorem conclude_approves_iff
    {usablePrice : Option Decimal}
    {leverage : Nat}
    {maxLoss budget : Decimal}
    (noPrice : ∀ price, usablePrice = some price → price ≤ 0) :
    ((.ok (conclude leverage maxLoss budget none) :
            Except DecimalSignal (RiskDecision RiskReason)) = .ok decision ∧
        decision.allowed = true) ↔
      Approves arithmetic symbolRules usablePrice leverage maxLoss budget
        decision := by
  constructor
  · rintro ⟨returned, allowed⟩
    cases returned
    have positive := conclude_allowed_iff.mp allowed
    rw [conclude_of_pos positive]
    exact .unpriced noPrice positive
  · intro approves
    cases approves with
    | unpriced _ positive =>
        rw [conclude_of_pos positive]
        exact ⟨rfl, rfl⟩
    | unruled _ priced pricePositive _ _ _ =>
        exact absurd pricePositive (not_lt.mpr (noPrice _ priced))
    | ruled _ priced pricePositive _ _ _ _ _ =>
        exact absurd pricePositive (not_lt.mpr (noPrice _ priced))

/-- The approvals of a budget, with a usable price or without. -/
theorem sizeBudgetWith_approves_iff
    {usablePrice : Option Decimal}
    {leverage : Nat}
    {maxLoss budget : Decimal} :
    (sizeBudgetWith arithmetic symbolRules usablePrice leverage maxLoss
          budget = .ok decision ∧
        decision.allowed = true) ↔
      Approves arithmetic symbolRules usablePrice leverage maxLoss budget
        decision := by
  unfold sizeBudgetWith
  cases usablePrice with
  | none =>
      exact conclude_approves_iff (fun _ impossible => nomatch impossible)
  | some price =>
      dsimp only
      split
      · next pricePositive =>
          exact sizeAtPriceWith_approves_iff pricePositive
      · next unusable =>
          apply conclude_approves_iff
          intro other same
          cases same
          exact not_lt.mp unusable

/-- An evaluation approves exactly what a free slot and its budget approve. -/
theorem evaluateWith_approves_iff :
    (evaluateWith arithmetic signal snapshot symbolRules currentExposureUsdt
          openPositionCount maxOpenPositions markPrice = .ok decision ∧
        decision.allowed = true) ↔
      openPositionCount < maxOpenPositions ∧
        ∃ budget,
          openBudgetWith arithmetic signal snapshot currentExposureUsdt =
              .ok (some budget) ∧
            Approves arithmetic symbolRules
              (orDecimal markPrice signal.entryPrice)
              (ladder signal snapshot) (lossBudget snapshot) budget
              decision := by
  by_cases slotFree : openPositionCount < maxOpenPositions
  · rw [evaluateWith_of_free slotFree, bind_eq_ok_iff]
    constructor
    · rintro ⟨⟨left, opened, returned⟩, allowed⟩
      cases left with
      | none =>
          cases returned
          cases allowed
      | some budget =>
          exact ⟨slotFree, budget, opened,
            sizeBudgetWith_approves_iff.mp ⟨returned, allowed⟩⟩
    · rintro ⟨_, budget, opened, approves⟩
      obtain ⟨returned, allowed⟩ := sizeBudgetWith_approves_iff.mpr approves
      exact ⟨⟨some budget, opened, returned⟩, allowed⟩
  · refine iff_of_false ?_ (fun approves => slotFree approves.1)
    rw [evaluateWith, if_pos (not_lt.mp slotFree)]
    rintro ⟨returned, allowed⟩
    cases returned
    cases allowed

/-- Sizing gives the reason `ok` exactly to approvals. -/
theorem sizeAtPriceWith_reason_iff
    {leverage : Nat}
    {maxLoss budget price : Decimal}
    (sized :
      sizeAtPriceWith arithmetic symbolRules leverage maxLoss budget price =
        .ok decision) :
    decision.reason = .ok ↔ decision.allowed = true := by
  obtain ⟨rawQty, _, rest⟩ := bind_eq_ok_iff.mp sized
  obtain ⟨qty, _, underRules⟩ := bind_eq_ok_iff.mp rest
  split at underRules
  · obtain ⟨lot, _, checked⟩ := bind_eq_ok_iff.mp underRules
    unfold checkUnderRulesWith at checked
    split at checked
    · cases checked
      simp
    · obtain ⟨worth, _, valued⟩ := bind_eq_ok_iff.mp checked
      obtain ⟨cents, _, concluded⟩ := bind_eq_ok_iff.mp valued
      split at concluded
      · cases concluded
        simp
      · cases concluded
        exact conclude_reason_iff
  · cases underRules
    exact conclude_reason_iff

/-- The reason `ok` is given exactly to approvals. -/
theorem evaluateWith_reason_iff
    (evaluated :
      evaluateWith arithmetic signal snapshot symbolRules
        currentExposureUsdt openPositionCount maxOpenPositions markPrice =
          .ok decision) :
    decision.reason = .ok ↔ decision.allowed = true := by
  by_cases slotFree : openPositionCount < maxOpenPositions
  · rw [evaluateWith_of_free slotFree] at evaluated
    obtain ⟨left, _, returned⟩ := bind_eq_ok_iff.mp evaluated
    cases left with
    | none =>
        cases returned
        simp
    | some budget =>
        dsimp only [sizeBudgetWith] at returned
        split at returned
        · split at returned
          · exact sizeAtPriceWith_reason_iff returned
          · cases returned
            exact conclude_reason_iff
        · cases returned
          exact conclude_reason_iff
  · rw [evaluateWith, if_pos (not_lt.mp slotFree)] at evaluated
    cases evaluated
    simp

section Sizing

variable {budget price rawQty : Decimal}

/-- Cents are positive only of a positive lot. -/
theorem WorthCents.lot_pos
    {lot cents : Decimal}
    (worth : WorthCents contextArithmetic price lot cents)
    (pricePositive : 0 < price)
    (positive : 0 < cents) :
    0 < lot := by
  obtain ⟨product, multiplied, quantized⟩ := worth
  obtain ⟨_, isProduct⟩ := finalize_eq_ok_iff.mp multiplied
  have isCents : cents = quantizeDown (10 ^ (-2 : Int)) product :=
    eq_of_quantize_eq_ok quantized
  rw [isCents] at positive
  have worthPositive : 0 < product :=
    pos_of_quantizeDown_pos (pow_pos _) positive
  rw [← isProduct] at worthPositive
  exact pos_of_mul_pos_left (Context.pos_of_rounded_pos worthPositive)
    (le_of_lt pricePositive)

/-- A quotient that is not zero divides to its 28 digits. -/
theorem divide_eq_ok_iff (pricePositive : 0 < price) :
    contextArithmetic.divide budget price = .ok rawQty ↔
      InRange (budget / price) ∧
        defaultContext.rounded (budget / price) = rawQty := by
  rw [← finalize_eq_ok_iff]
  exact Eq.congr_left (if_neg (ne_of_gt pricePositive))

end Sizing

section Budget

variable {budget : Decimal}

/-- The loss budget times the leverage. -/
def fullNotional
    (signal : NormalizedSignal)
    (snapshot : EffectiveConfigSnapshot) : Decimal :=
  lossBudget snapshot * (ladder signal snapshot : Decimal)

/--
The budget of an evaluation in the default context: the notional to 28 digits
under the cap, or what the exposure leaves of the cap to 28 digits if their
sum, to 28 digits, exceeds it.
-/
inductive OpenBudget
    (signal : NormalizedSignal)
    (snapshot : EffectiveConfigSnapshot)
    (currentExposureUsdt : Decimal) : Decimal → Prop where
  | uncapped
      (noCap : snapshot.maxNotionalUsdt = none)
      (inRange : InRange (fullNotional signal snapshot)) :
      OpenBudget signal snapshot currentExposureUsdt
        (defaultContext.rounded (fullNotional signal snapshot))
  | within
      {cap notional : Decimal}
      (capSet : snapshot.maxNotionalUsdt = some cap)
      (inRange : InRange (fullNotional signal snapshot))
      (isNotional :
        notional =
          min (defaultContext.rounded (fullNotional signal snapshot)) cap)
      (totalInRange : InRange (currentExposureUsdt + notional))
      (fits :
        defaultContext.rounded (currentExposureUsdt + notional) ≤ cap) :
      OpenBudget signal snapshot currentExposureUsdt notional
  | clipped
      {cap notional : Decimal}
      (capSet : snapshot.maxNotionalUsdt = some cap)
      (inRange : InRange (fullNotional signal snapshot))
      (isNotional :
        notional =
          min (defaultContext.rounded (fullNotional signal snapshot)) cap)
      (totalInRange : InRange (currentExposureUsdt + notional))
      (exceeds :
        cap < defaultContext.rounded (currentExposureUsdt + notional))
      (restInRange : InRange (cap - currentExposureUsdt))
      (restPositive :
        0 < defaultContext.rounded (cap - currentExposureUsdt)) :
      OpenBudget signal snapshot currentExposureUsdt
        (defaultContext.rounded (cap - currentExposureUsdt))

/-- In the default context the budget is the one that is computed. -/
theorem openBudgetWith_eq_some_iff :
    openBudgetWith contextArithmetic signal snapshot currentExposureUsdt =
        .ok (some budget) ↔
      OpenBudget signal snapshot currentExposureUsdt budget := by
  unfold openBudgetWith
  rw [bind_eq_ok_iff]
  constructor
  · rintro ⟨notional, multiplied, remains⟩
    obtain ⟨inRange, rfl⟩ := finalize_eq_ok_iff.mp multiplied
    cases capSet : snapshot.maxNotionalUsdt with
    | none =>
        simp only [exposureRemainderWith, underCap, capSet] at remains
        cases remains
        exact .uncapped capSet inRange
    | some cap =>
        simp only [exposureRemainderWith, underCap, capSet] at remains
        obtain ⟨total, added, rest⟩ := bind_eq_ok_iff.mp remains
        obtain ⟨totalInRange, rfl⟩ := finalize_eq_ok_iff.mp added
        split at rest
        · next exceeds =>
            obtain ⟨remaining, subtracted, clipped⟩ :=
              bind_eq_ok_iff.mp rest
            obtain ⟨restInRange, rfl⟩ := finalize_eq_ok_iff.mp subtracted
            split at clipped
            · cases clipped
            · next positive =>
                cases clipped
                exact .clipped capSet inRange rfl totalInRange exceeds
                  restInRange (not_le.mp positive)
        · next fits =>
            cases rest
            exact .within capSet inRange rfl totalInRange (not_lt.mp fits)
  · intro opened
    cases opened with
    | uncapped noCap inRange =>
        refine ⟨_, finalize_eq_ok_iff.mpr ⟨inRange, rfl⟩, ?_⟩
        simp only [exposureRemainderWith, underCap, noCap]
        rfl
    | @within cap _ capSet inRange isNotional totalInRange fits =>
        subst isNotional
        refine ⟨_, finalize_eq_ok_iff.mpr ⟨inRange, rfl⟩, ?_⟩
        have added := finalize_eq_ok_iff.mpr ⟨totalInRange, rfl⟩
        simp only [exposureRemainderWith, underCap, capSet]
        refine bind_eq_ok_iff.mpr ⟨_, added, ?_⟩
        exact if_neg (not_lt.mpr fits)
    | @clipped cap _ capSet inRange isNotional totalInRange exceeds
        restInRange restPositive =>
        subst isNotional
        refine ⟨_, finalize_eq_ok_iff.mpr ⟨inRange, rfl⟩, ?_⟩
        have added := finalize_eq_ok_iff.mpr ⟨totalInRange, rfl⟩
        have subtracted := finalize_eq_ok_iff.mpr ⟨restInRange, rfl⟩
        simp only [exposureRemainderWith, underCap, capSet]
        refine bind_eq_ok_iff.mpr ⟨_, added, ?_⟩
        rw [if_pos exceeds]
        refine bind_eq_ok_iff.mpr ⟨_, subtracted, ?_⟩
        exact if_neg (not_le.mpr restPositive)

end Budget

end RiskEngine

end SafeSignalTrader
