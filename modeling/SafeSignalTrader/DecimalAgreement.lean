import SafeSignalTrader.DecimalGrid
import SafeSignalTrader.SizingLimits

/-!
# Agreement with exact arithmetic

The engines compute in the default decimal context, where a quotient keeps 28
digits.  On amounts of eight decimal places and a bounded size that context
decides as exact arithmetic does: the one quotient that is rounded stays among
the same multiples of the eighth place, and every other operation is exact.
-/

namespace SafeSignalTrader

open DecimalContext DecimalRounding

/-- A number of eighth decimal places. -/
def EightPlaces (amount : Decimal) : Prop :=
  ∃ units : Int, amount = units / 10 ^ 8

/-- An amount of eight decimal places up to a limit. -/
structure PlainAmount (limit amount : Decimal) : Prop where
  places : EightPlaces amount
  inRange : |amount| ≤ limit

namespace EightPlaces

variable {first second : Decimal}

theorem add (left : EightPlaces first) (right : EightPlaces second) :
    EightPlaces (first + second) := by
  obtain ⟨leftUnits, rfl⟩ := left
  obtain ⟨rightUnits, rfl⟩ := right
  exact ⟨leftUnits + rightUnits, by push_cast; ring⟩

theorem sub (left : EightPlaces first) (right : EightPlaces second) :
    EightPlaces (first - second) := by
  obtain ⟨leftUnits, rfl⟩ := left
  obtain ⟨rightUnits, rfl⟩ := right
  exact ⟨leftUnits - rightUnits, by push_cast; ring⟩

theorem intMul (count : Int) (plain : EightPlaces first) :
    EightPlaces (count * first) := by
  obtain ⟨units, rfl⟩ := plain
  exact ⟨count * units, by push_cast; ring⟩

theorem min (left : EightPlaces first) (right : EightPlaces second) :
    EightPlaces (min first second) := by
  rcases min_choice first second with isFirst | isSecond
  · rw [isFirst]
    exact left
  · rw [isSecond]
    exact right

/-- A multiple of eighth places has eight places. -/
theorem quantizeDown (plain : EightPlaces first) (number : Decimal) :
    EightPlaces (DecimalRounding.quantizeDown first number) :=
  plain.intMul _

/-- A positive number of eight places is at least the last of them. -/
theorem unit_le (plain : EightPlaces first) (positive : 0 < first) :
    1 / 10 ^ 8 ≤ first := by
  obtain ⟨units, rfl⟩ := plain
  have unitsPos : 0 < units := by
    have scaled := (div_pos_iff_of_pos_right (by norm_num)).mp positive
    exact_mod_cast scaled
  apply div_le_div_of_nonneg_right _ (by norm_num)
  exact_mod_cast unitsPos

end EightPlaces

theorem PlainAmount.finalize
    {limit amount : Decimal}
    (plain : PlainAmount limit amount)
    (limitLe : limit ≤ 10 ^ 19) :
    defaultContext.finalize amount = .ok amount := by
  refine finalize_exact (by decide) plain.places ?_
  calc
    |amount| * 10 ^ 8 ≤ 10 ^ 19 * 10 ^ 8 :=
      mul_le_mul_of_nonneg_right (le_trans plain.inRange limitLe)
        (by norm_num)
    _ < 10 ^ 28 := by norm_num

namespace RiskEngine

variable {signal : NormalizedSignal}
variable {snapshot : EffectiveConfigSnapshot}
variable {exposure notional price : Decimal}

theorem ladder_le (signal : NormalizedSignal)
    (snapshot : EffectiveConfigSnapshot) : ladder signal snapshot ≤ 125 := by
  apply le_trans (min_le_left _ _)
  cases set : signal.leverage with
  | none => decide
  | some leverage =>
      have bounds := signal.leverageInRange leverage set
      cases leverage with
      | zero => decide
      | succ leverage => exact bounds.2

/-- The notional of a budget of eight places. -/
theorem notional_plain
    (loss : PlainAmount (10 ^ 8) (lossBudget snapshot)) :
    PlainAmount (10 ^ 11)
      (lossBudget snapshot * (ladder signal snapshot : Decimal)) where
  places := by
    rw [mul_comm, ← Int.cast_natCast]
    exact loss.places.intMul _
  inRange := by
    have ladderLe : (ladder signal snapshot : Decimal) ≤ 125 := by
      exact_mod_cast ladder_le signal snapshot
    rw [abs_mul, Nat.abs_cast]
    calc
      |lossBudget snapshot| * (ladder signal snapshot : Decimal) ≤
          10 ^ 8 * 125 :=
        mul_le_mul loss.inRange ladderLe (Nat.cast_nonneg _) (by norm_num)
      _ ≤ 10 ^ 11 := by norm_num

/-- The exposure limit leaves an exact budget of eight places. -/
theorem exposureRemainderWith_plain
    (cap : ∀ cap, snapshot.maxNotionalUsdt = some cap →
      PlainAmount (10 ^ 11) cap)
    (exposed : PlainAmount (10 ^ 11) exposure)
    (plain : PlainAmount (10 ^ 11) notional) :
    exposureRemainderWith contextArithmetic snapshot exposure notional =
        .ok (exposureRemainder snapshot exposure notional) ∧
      ∀ budget, exposureRemainder snapshot exposure notional = some budget →
        PlainAmount (10 ^ 11) budget := by
  unfold exposureRemainderWith exposureRemainder
  cases limit : snapshot.maxNotionalUsdt with
  | none =>
      refine ⟨rfl, ?_⟩
      intro budget isNotional
      cases isNotional
      exact plain
  | some limited =>
      have capPlain := cap limited limit
      have total : PlainAmount (2 * 10 ^ 11) (exposure + notional) :=
        ⟨exposed.places.add plain.places, by
          have triangle := abs_add_le exposure notional
          have exposedLe := exposed.inRange
          have notionalLe := plain.inRange
          linarith⟩
      have rest : PlainAmount (2 * 10 ^ 11) (limited - exposure) :=
        ⟨capPlain.places.sub exposed.places, by
          have triangle := abs_sub limited exposure
          have capLe := capPlain.inRange
          have exposedLe := exposed.inRange
          linarith⟩
      have added :
          contextArithmetic.add exposure notional =
            .ok (exposure + notional) := total.finalize (by norm_num)
      have subtracted :
          contextArithmetic.subtract limited exposure =
            .ok (limited - exposure) := rest.finalize (by norm_num)
      dsimp only
      rw [added, subtracted]
      by_cases exceeds : limited < exposure + notional
      · by_cases exhausted : limited - exposure ≤ 0
        · simp only [bind, Except.bind, pure, Except.pure, if_pos exceeds,
            if_pos exhausted]
          exact ⟨trivial, fun budget absent => by cases absent⟩
        · simp only [bind, Except.bind, pure, Except.pure, if_pos exceeds,
            if_neg exhausted]
          refine ⟨trivial, ?_⟩
          intro budget isRest
          cases isRest
          refine ⟨rest.places, ?_⟩
          -- What remains is less than the notional that did not fit.
          have notionalLe := (abs_le.mp plain.inRange).2
          rw [abs_of_pos (not_le.mp exhausted)]
          linarith
      · simp only [bind, Except.bind, pure, Except.pure, if_neg exceeds]
        refine ⟨trivial, ?_⟩
        intro budget isNotional
        cases isNotional
        exact plain

section AtPrice

variable (plain : PlainAmount (10 ^ 11) notional)
variable (priced : PlainAmount (10 ^ 12) price)
variable (positive : 0 < price)

include plain priced positive

/-- A quantity has at most nineteen integral digits. -/
theorem abs_quantity_le : |notional / price| ≤ (10 : Decimal) ^ (19 : Int) := by
  have unitLe := priced.places.unit_le positive
  rw [abs_div, abs_of_pos positive, div_le_iff₀ positive]
  calc
    |notional| ≤ 10 ^ 11 := plain.inRange
    _ = 10 ^ (19 : Int) * (1 / 10 ^ 8) := by norm_num
    _ ≤ 10 ^ (19 : Int) * price :=
      mul_le_mul_of_nonneg_left unitLe (by norm_num)

/-- The rounded quotient keeps its place among the eighth places. -/
theorem sameGrid_quantity :
    SameGrid (1 / 10 ^ 8) (notional / price)
      (defaultContext.rounded (notional / price)) := by
  obtain ⟨⟨dividend, notionalUnits⟩, notionalLe⟩ := plain
  obtain ⟨⟨divisor, priceUnits⟩, priceLe⟩ := priced
  subst notionalUnits priceUnits
  have tens : (0 : Decimal) < 10 ^ 8 := by norm_num
  have divisorPos : 0 < divisor := by
    have scaled := (div_pos_iff_of_pos_right tens).mp positive
    exact_mod_cast scaled
  have divisorLe : (divisor : Decimal) ≤ 10 ^ 20 := by
    rw [abs_of_pos positive, div_le_iff₀ tens] at priceLe
    exact le_trans priceLe (by norm_num)
  have short :
      |dividend| * 10 ^ 8 < 2 * 10 ^ (defaultContext.precision - 1) := by
    have dividendLe : |dividend| ≤ 10 ^ 19 := by
      rw [abs_div, abs_of_pos tens, div_le_iff₀ tens] at notionalLe
      have scaled : (|dividend| : Decimal) ≤ ((10 ^ 19 : Int) : Decimal) :=
        le_trans notionalLe (by norm_num)
      exact_mod_cast scaled
    calc
      |dividend| * 10 ^ 8 ≤ 10 ^ 19 * 10 ^ 8 :=
        mul_le_mul_of_nonneg_right dividendLe (by norm_num)
      _ < 2 * 10 ^ (defaultContext.precision - 1) := by decide
  have normal : (divisor : Decimal) * 10 ^ defaultContext.emin ≤ 1 := by
    calc
      (divisor : Decimal) * 10 ^ defaultContext.emin ≤
          10 ^ 20 * 10 ^ (-20 : Int) :=
        mul_le_mul divisorLe (pow_le_pow (by decide))
          (le_of_lt (pow_pos _)) (by norm_num)
      _ = 1 := by norm_num
  rw [div_div_div_cancel_right₀ (ne_of_gt tens)]
  exact Context.sameGrid_quotient divisorPos (by decide) normal short

theorem divide_quantity :
    contextArithmetic.divide notional price =
      .ok (defaultContext.rounded (notional / price)) := by
  refine Eq.trans (if_neg (ne_of_gt positive)) ?_
  exact Context.finalize_of_le (by decide : defaultContext.etiny ≤ 19)
    (by decide) (abs_quantity_le plain priced positive)

/-- The rounded quotient has the eighth places of the exact one. -/
theorem quantize_quantity :
    contextArithmetic.quantize (-8)
        (defaultContext.rounded (notional / price)) =
      .ok (quantizeDown (1 / 10 ^ 8) (notional / price)) := by
  have same := sameGrid_quantity plain priced positive
  have unit : (10 : Decimal) ^ (-8 : Int) = 1 / 10 ^ 8 := by norm_num
  have roundedLe :
      |defaultContext.rounded (notional / price)| ≤
        (10 : Decimal) ^ (19 : Int) :=
    Context.abs_rounded_le_pow (by decide)
      (abs_quantity_le plain priced positive)
  have fits :
      |defaultContext.rounded (notional / price)| <
        (10 : Decimal) ^ ((-8 : Int) + defaultContext.precision) :=
    lt_of_le_of_lt roundedLe
      (zpow_lt_zpow_right₀ (by norm_num) (by decide))
  rw [quantize_eq, Context.quantize_of_lt (by decide) fits, unit,
    ← same.quantizeDown_eq (by norm_num)]

end AtPrice

section Lots

variable {rules : SymbolRules}
variable {rawQty exactQty qty : Decimal}

/-- The lot of a quantity is computed exactly, on the same side of a minimum. -/
theorem lotQuantityWith_plain
    (step : EightPlaces rules.stepSize)
    (minQty : EightPlaces rules.minQty)
    (same : SameGrid (1 / 10 ^ 8) exactQty rawQty)
    (plain : PlainAmount (10 ^ 19) qty) :
    lotQuantityWith contextArithmetic rules rawQty qty =
      .ok (lotQuantity rules exactQty qty) := by
  unfold lotQuantityWith lotQuantity
  by_cases positive : 0 < rules.stepSize
  · have unitLe := step.unit_le positive
    have flooredLe :
        |quantizeDown rules.stepSize qty| ≤ 10 ^ 19 :=
      le_trans (abs_quantizeDown_le positive) plain.inRange
    have few :
        |floorDiv qty rules.stepSize| < 10 ^ defaultContext.precision := by
      have scaled :
          ((|floorDiv qty rules.stepSize| : Int) : Decimal) *
              rules.stepSize ≤ 10 ^ 19 := by
        rw [Int.cast_abs, ← abs_of_pos positive, ← abs_mul,
          abs_of_pos positive]
        exact flooredLe
      have lots :
          ((|floorDiv qty rules.stepSize| : Int) : Decimal) *
              (1 / 10 ^ 8) ≤ 10 ^ 19 :=
        le_trans (mul_le_mul_of_nonneg_left unitLe
          (Int.cast_nonneg (abs_nonneg _))) scaled
      have bounded :
          ((|floorDiv qty rules.stepSize| : Int) : Decimal) <
            ((10 ^ 28 : Int) : Decimal) := by
        norm_num at lots ⊢
        linarith
      exact Int.cast_lt.mp bounded
    have divided :
        contextArithmetic.divideInt qty rules.stepSize =
          .ok (floorDiv qty rules.stepSize : Decimal) :=
      Context.divideInt_of_lt (ne_of_gt positive) few
    have multiplied :
        contextArithmetic.multiply (floorDiv qty rules.stepSize : Decimal)
            rules.stepSize =
          .ok (quantizeDown rules.stepSize qty) :=
      PlainAmount.finalize ⟨step.quantizeDown qty, flooredLe⟩ le_rfl
    have reaches : rules.minQty ≤ rawQty ↔ rules.minQty ≤ exactQty := by
      obtain ⟨units, isUnits⟩ := minQty
      rw [isUnits, ← mul_one_div]
      exact (same.reaches units).symm
    simp only [if_pos positive, divided, multiplied, bind, Except.bind,
      pure, Except.pure, reaches]
    split <;> rfl
  · rw [if_neg positive, if_neg positive]
    rfl

/-- A lot of eight places whose worth is within the budget limit. -/
structure AffordableLot (price lot : Decimal) : Prop where
  places : EightPlaces lot
  worth : |lot * price| ≤ 10 ^ 11

/-- The lot of a quantity is worth no more than its budget or one step. -/
theorem lotQuantity_affordable
    {price : Decimal}
    (step : EightPlaces rules.stepSize)
    (stepWorth : 0 < rules.stepSize → rules.stepSize * price ≤ 10 ^ 11)
    (pricePositive : 0 < price)
    (affordable : AffordableLot price qty) :
    AffordableLot price (lotQuantity rules rawQty qty) := by
  unfold lotQuantity
  by_cases positive : 0 < rules.stepSize
  · rw [if_pos positive]
    dsimp only
    by_cases lifted :
        quantizeDown rules.stepSize qty ≤ 0 ∧ rules.minQty ≤ rawQty
    · rw [if_pos lifted]
      refine ⟨step, ?_⟩
      rw [abs_of_pos (mul_pos positive pricePositive)]
      exact stepWorth positive
    · rw [if_neg lifted]
      refine ⟨step.quantizeDown qty, ?_⟩
      apply le_trans _ affordable.worth
      rw [abs_mul, abs_mul]
      exact mul_le_mul_of_nonneg_right (abs_quantizeDown_le positive)
        (abs_nonneg _)
  · rw [if_neg positive]
    exact affordable

/-- The worth of an affordable lot is exact, so its checks are. -/
theorem checkUnderRulesWith_plain
    {price lot : Decimal}
    (leverage : Nat)
    (maxLoss notional : Decimal)
    (priced : EightPlaces price)
    (affordable : AffordableLot price lot) :
    checkUnderRulesWith contextArithmetic rules leverage maxLoss notional
        price lot =
      checkUnderRulesWith .exact rules leverage maxLoss notional price
        lot := by
  have worthDigits : ∃ units : Int, lot * price = units / 10 ^ 16 := by
    obtain ⟨lotUnits, rfl⟩ := affordable.places
    obtain ⟨priceUnits, rfl⟩ := priced
    exact ⟨lotUnits * priceUnits, by push_cast; ring⟩
  have multiplied :
      contextArithmetic.multiply lot price = .ok (lot * price) := by
    refine finalize_exact (by decide) worthDigits ?_
    calc
      |lot * price| * 10 ^ 16 ≤ 10 ^ 11 * 10 ^ 16 :=
        mul_le_mul_of_nonneg_right affordable.worth (by norm_num)
      _ < 10 ^ 28 := by norm_num
  have fits :
      |lot * price| <
        (10 : Decimal) ^ ((-2 : Int) + defaultContext.precision) := by
    apply lt_of_le_of_lt affordable.worth
    have tens : (10 : Decimal) ^ 11 = 10 ^ (11 : Int) := by norm_num
    rw [tens]
    exact zpow_lt_zpow_right₀ (by norm_num) (by decide)
  have quantized :
      contextArithmetic.quantize (-2) (lot * price) =
        DecimalArithmetic.exact.quantize (-2) (lot * price) :=
    Context.quantize_of_lt (by decide) fits
  have exactly :
      DecimalArithmetic.exact.multiply lot price = .ok (lot * price) := rfl
  simp only [checkUnderRulesWith, multiplied, exactly, bind, Except.bind,
    quantized]

end Lots

/-- Trading rules of eight places, with a step that can be afforded. -/
structure PlainRules (rules : SymbolRules) (price : Decimal) : Prop where
  step : EightPlaces rules.stepSize
  minQty : EightPlaces rules.minQty
  stepWorth : 0 < rules.stepSize → rules.stepSize * price ≤ 10 ^ 11

/-- Sizing a plain budget at a plain price is exact sizing. -/
theorem sizeAtPriceWith_plain
    {symbolRules : Option SymbolRules}
    (leverage : Nat)
    (maxLoss : Decimal)
    (plain : PlainAmount (10 ^ 11) notional)
    (priced : PlainAmount (10 ^ 12) price)
    (positive : 0 < price)
    (plainRules : ∀ rules, symbolRules = some rules →
      PlainRules rules price) :
    sizeAtPriceWith contextArithmetic symbolRules leverage maxLoss notional
        price =
      .ok (sizeAtPrice symbolRules leverage maxLoss notional price) := by
  have quantum : (0 : Decimal) < 1 / 10 ^ 8 := by norm_num
  have eighth : (10 : Decimal) ^ (-8 : Int) = 1 / 10 ^ 8 := by norm_num
  have same := sameGrid_quantity plain priced positive
  have quantityLe := abs_quantity_le plain priced positive
  have unitPlaces : EightPlaces (1 / 10 ^ 8) := ⟨1, by norm_num⟩
  have quantity :
      PlainAmount (10 ^ 19)
        (quantizeDown (1 / 10 ^ 8) (notional / price)) :=
    ⟨unitPlaces.quantizeDown _,
      le_trans (abs_quantizeDown_le quantum) quantityLe⟩
  have affordable :
      AffordableLot price
        (quantizeDown (1 / 10 ^ 8) (notional / price)) := by
    refine ⟨quantity.places, ?_⟩
    calc
      |quantizeDown (1 / 10 ^ 8) (notional / price) * price| ≤
          |notional / price| * |price| := by
        rw [abs_mul]
        exact mul_le_mul_of_nonneg_right (abs_quantizeDown_le quantum)
          (abs_nonneg _)
      _ = |notional| := by
        rw [← abs_mul, div_mul_cancel₀ _ (ne_of_gt positive)]
      _ ≤ 10 ^ 11 := plain.inRange
  rw [← sizeAtPriceWith_exact]
  have divided :
      DecimalArithmetic.exact.divide notional price =
        .ok (notional / price) := rfl
  have quantized :
      DecimalArithmetic.exact.quantize (-8) (notional / price) =
        .ok (quantizeDown (1 / 10 ^ 8) (notional / price)) := by
    rw [← eighth]
    rfl
  unfold sizeAtPriceWith
  rw [divide_quantity plain priced positive, divided]
  simp only [bind, Except.bind]
  rw [quantize_quantity plain priced positive, quantized]
  cases symbolRules with
  | none => rfl
  | some rules =>
      have ruled := plainRules rules rfl
      have lot :=
        lotQuantityWith_plain ruled.step ruled.minQty same quantity
      simp only [lot, lotQuantityWith_exact]
      exact checkUnderRulesWith_plain leverage maxLoss notional priced.places
        (lotQuantity_affordable ruled.step ruled.stepWorth positive
          affordable)

end RiskEngine

open RiskEngine

/-- Amounts that sizing works on without losing a digit. -/
structure PlainSizing
    (signal : NormalizedSignal)
    (snapshot : EffectiveConfigSnapshot)
    (symbolRules : Option SymbolRules)
    (currentExposureUsdt : Decimal)
    (markPrice : Option Decimal) : Prop where
  loss : PlainAmount (10 ^ 8) (lossBudget snapshot)
  cap : ∀ cap, snapshot.maxNotionalUsdt = some cap →
    PlainAmount (10 ^ 11) cap
  exposure : PlainAmount (10 ^ 11) currentExposureUsdt
  mark : ∀ mark, markPrice = some mark → PlainAmount (10 ^ 12) mark
  entry : ∀ price, signal.entryPrice = some price →
    PlainAmount (10 ^ 12) price
  rules : ∀ rules price, symbolRules = some rules →
    orDecimal markPrice signal.entryPrice = some price →
      PlainRules rules price

section Agreement

variable {signal : NormalizedSignal}
variable {snapshot : EffectiveConfigSnapshot}
variable {symbolRules : Option SymbolRules}
variable {currentExposureUsdt : Decimal}
variable {markPrice : Option Decimal}

/-- The usable price of a sizing is one of its two prices. -/
theorem PlainSizing.price
    (plain : PlainSizing signal snapshot symbolRules currentExposureUsdt
      markPrice)
    {price : Decimal}
    (usable : orDecimal markPrice signal.entryPrice = some price) :
    PlainAmount (10 ^ 12) price := by
  unfold orDecimal at usable
  cases marked : markPrice with
  | none =>
      rw [marked] at usable
      exact plain.entry price usable
  | some mark =>
      rw [marked] at usable
      by_cases zero : mark = 0
      · simp only [if_pos zero] at usable
        exact plain.entry price usable
      · simp only [if_neg zero] at usable
        rw [← Option.some.inj usable]
        exact plain.mark mark marked

/-- The evaluation of plain amounts is the exact one. -/
theorem PlainSizing.evaluateWith
    (plain : PlainSizing signal snapshot symbolRules currentExposureUsdt
      markPrice)
    (openPositionCount maxOpenPositions : Int) :
    RiskEngine.evaluateWith contextArithmetic signal snapshot symbolRules
        currentExposureUsdt openPositionCount maxOpenPositions markPrice =
      .ok (evaluate signal snapshot symbolRules currentExposureUsdt
        openPositionCount maxOpenPositions markPrice) := by
  have notional := @notional_plain signal snapshot plain.loss
  have multiplied :
      contextArithmetic.multiply (lossBudget snapshot)
          (ladder signal snapshot : Decimal) =
        .ok (lossBudget snapshot * (ladder signal snapshot : Decimal)) :=
    notional.finalize (by norm_num)
  have capped : PlainAmount (10 ^ 11) (cappedNotional signal snapshot) := by
    unfold cappedNotional
    cases limit : snapshot.maxNotionalUsdt with
    | none => exact notional
    | some cap =>
        dsimp only
        rcases min_choice
            (lossBudget snapshot * (ladder signal snapshot : Decimal)) cap
          with isNotional | isCap
        · rw [isNotional]
          exact notional
        · rw [isCap]
          exact plain.cap cap limit
  have capSame :
      underCap snapshot
          (lossBudget snapshot * (ladder signal snapshot : Decimal)) =
        cappedNotional signal snapshot := rfl
  obtain ⟨remains, budgetPlain⟩ :=
    exposureRemainderWith_plain plain.cap plain.exposure capped
  unfold RiskEngine.evaluateWith evaluate
  split
  · rfl
  · dsimp only
    rw [multiplied]
    simp only [bind, Except.bind, capSame, remains]
    cases left : exposureRemainder snapshot currentExposureUsdt
        (cappedNotional signal snapshot) with
    | none => rfl
    | some budget =>
        dsimp only
        cases usable : orDecimal markPrice signal.entryPrice with
        | none => rfl
        | some price =>
            dsimp only
            by_cases positive : 0 < price
            · rw [if_pos positive, if_pos positive]
              exact sizeAtPriceWith_plain _ _ (budgetPlain budget left)
                (plain.price usable) positive
                (fun rules ruled => plain.rules rules price ruled usable)
            · rw [if_neg positive, if_neg positive]
              rfl

/-- The late-entry bound of a plain price is exact. -/
theorem bound_plain
    {price factor : Decimal}
    {percent : Int}
    (isPercent : factor = percent / 100)
    (small : |factor| ≤ 10)
    (priced : PlainAmount (10 ^ 12) price) :
    contextArithmetic.multiply price factor = .ok (price * factor) := by
  have shape : ∃ units : Int, price * factor = units / 10 ^ 10 := by
    obtain ⟨units, rfl⟩ := priced.places
    exact ⟨units * percent, by rw [isPercent]; push_cast; ring⟩
  refine finalize_exact (by decide) shape ?_
  calc
    |price * factor| * 10 ^ 10 ≤ 10 ^ 12 * 10 * 10 ^ 10 := by
      rw [abs_mul]
      exact mul_le_mul_of_nonneg_right
        (mul_le_mul priced.inRange small (abs_nonneg _) (by norm_num))
        (by norm_num)
    _ < 10 ^ 28 := by norm_num

/-- The plan of an entry at a plain price is the exact one. -/
theorem PlainSizing.plan
    {Reason : Type}
    (plain : PlainSizing signal snapshot symbolRules currentExposureUsdt
      markPrice)
    (tradeId : UUID)
    (risk : RiskDecision Reason)
    (attempt : Int) :
    EntryPlanner.plan contextArithmetic tradeId signal snapshot risk attempt
        markPrice =
      EntryPlanner.plan .exact tradeId signal snapshot risk attempt
        markPrice := by
  have late :
      @EntryPlanner.lateEntryReason Reason contextArithmetic signal
          markPrice =
        @EntryPlanner.lateEntryReason Reason .exact signal markPrice := by
    unfold EntryPlanner.lateEntryReason
    cases markPrice with
    | none => rfl
    | some mark =>
        cases priced : signal.entryPrice with
        | none => rfl
        | some price =>
            have above :
                contextArithmetic.multiply price (101 / 100) =
                  DecimalArithmetic.exact.multiply price (101 / 100) :=
              bound_plain (by norm_num : _ = ((101 : Int) : Decimal) / 100)
                (by norm_num) (plain.entry price priced)
            have below :
                contextArithmetic.multiply price (99 / 100) =
                  DecimalArithmetic.exact.multiply price (99 / 100) :=
              bound_plain (by norm_num : _ = ((99 : Int) : Decimal) / 100)
                (by norm_num) (plain.entry price priced)
            simp only [above, below]
  simp only [EntryPlanner.plan, EntryPlanner.entryTerms, late]

/--
On plain amounts the default context rounds nothing that a decision depends
on: the evaluation and every plan are those of exact arithmetic.
-/
theorem contextDecidesExactly
    (openPositionCount maxOpenPositions : Int)
    (plain : PlainSizing signal snapshot symbolRules currentExposureUsdt
      markPrice) :
    RiskEngine.evaluateWith contextArithmetic signal snapshot symbolRules
          currentExposureUsdt openPositionCount maxOpenPositions markPrice =
        .ok (evaluate signal snapshot symbolRules currentExposureUsdt
          openPositionCount maxOpenPositions markPrice) ∧
      ∀ (tradeId : UUID) (risk : RiskDecision RiskReason) (attempt : Int),
        EntryPlanner.plan contextArithmetic tradeId signal snapshot risk
            attempt markPrice =
          EntryPlanner.plan .exact tradeId signal snapshot risk attempt
            markPrice :=
  ⟨plain.evaluateWith openPositionCount maxOpenPositions,
    fun tradeId risk attempt => plain.plan tradeId risk attempt⟩

/-- Sizing the default budget of 10 at a price of 3 is plain. -/
theorem plainSizing_third :
    PlainSizing
      (.default 1 "src_demo_alpha" "generic_structured" "1.0.0" "BTCUSDT"
        .long)
      (.default "src_demo_alpha" "acc_demo_1" "profile_default" "1.0.0")
      (some (.default "BTCUSDT")) 0 (some 3) where
  loss := ⟨⟨10 ^ 9, by decide +kernel⟩, by decide +kernel⟩
  cap := by
    intro cap capSet
    cases capSet
  exposure := ⟨⟨0, by norm_num⟩, by norm_num⟩
  mark := by
    intro mark marked
    cases marked
    exact ⟨⟨3 * 10 ^ 8, by norm_num⟩, by norm_num⟩
  entry := by
    intro price priced
    cases priced
  rules := by
    intro rules price ruled usable
    cases ruled
    have isThree : price = 3 := by
      simpa [orDecimal, eq_comm] using usable
    subst isThree
    exact ⟨⟨10 ^ 5, by decide +kernel⟩, ⟨10 ^ 5, by decide +kernel⟩,
      fun _ => by decide +kernel⟩

/-- A budget of 10 at a price of 3, a quotient that the context cuts off. -/
theorem contextDecidesExactly_third :
    RiskEngine.evaluateWith contextArithmetic
        (.default 1 "src_demo_alpha" "generic_structured" "1.0.0" "BTCUSDT"
          .long)
        (.default "src_demo_alpha" "acc_demo_1" "profile_default" "1.0.0")
        (some (.default "BTCUSDT")) 0 0 5 (some 3) =
      .ok {
        allowed := true
        reason := .ok
        leverage := 1
        notionalUsdt := 999 / 100
        quantity := some (3333 / 1000)
        maxLossUsdt := some 10 } :=
  (contextDecidesExactly 0 5 plainSizing_third).1.trans
    (congrArg Except.ok (by decide +kernel))

end Agreement

end SafeSignalTrader
