import SafeSignalTrader.EntryPlanner

/-!
# The late-entry gate

A limit entry is stale if the mark price has moved more than one percent past
it.  The planner asks Python whether the two prices are true before it
compares them, so a mark price or an entry price of zero passes unchecked; and
it compares with a bound of 28 digits.
-/

namespace SafeSignalTrader

namespace EntryPlanner

variable {Reason : Type}

/-- A limit entry has a price within one percent of the mark price. -/
def WithinGate (signal : NormalizedSignal) (mark : Decimal) : Prop :=
  ∃ price, signal.entryPrice = some price ∧
    (signal.side = .long → mark ≤ 101 / 100 * price) ∧
      (signal.side = .short → 99 / 100 * price ≤ mark)

/-- An approval with a quantity to trade. -/
structure Sized (risk : RiskDecision Reason) : Prop where
  allowed : risk.allowed = true
  sized : ∃ quantity, risk.quantity = some quantity ∧ 0 < quantity

/-- What an entry needs in order not to be blocked. -/
structure Admissible
    (signal : NormalizedSignal)
    (risk : RiskDecision Reason)
    (mark : Decimal) : Prop extends Sized risk where
  gate : signal.entryType = .limit → WithinGate signal mark

/-- What a plan that is not blocked carries. -/
structure CarriesEntry
    (signal : NormalizedSignal)
    (risk : RiskDecision Reason)
    (planned : EntryPlan Reason) : Prop where
  quantity : risk.quantity = some planned.quantity
  leverage : planned.leverage = risk.leverage
  price :
    planned.price =
      if signal.entryType = .limit then signal.entryPrice else none

/--
The inputs on which the gate goes wrong: a price or mark price of zero passes
unchecked though it is stale, the mark price lies between the bound and the 28
digits it is compared with, or an admissible entry raises, because that bound
overflows or the attempt has too many digits.
-/
inductive Misjudged
    (signal : NormalizedSignal)
    (risk : RiskDecision Reason)
    (attempt : Int)
    (mark : Decimal) : Prop where
  | unchecked
      {price : Decimal}
      (printable : PrintableInt attempt)
      (sized : Sized risk)
      (isLimit : signal.entryType = .limit)
      (priced : signal.entryPrice = some price)
      (zero : mark = 0 ∨ price = 0)
      (stale : PastBound signal.side (price * gateFactor signal.side) mark)
  | rounded
      {price : Decimal}
      (printable : PrintableInt attempt)
      (sized : Sized risk)
      (checked : IsChecked signal (some mark) mark price)
      (inRange : InRange (price * gateFactor signal.side))
      (between :
        ¬ (PastBound signal.side
              (defaultContext.rounded (price * gateFactor signal.side))
              mark ↔
            PastBound signal.side (price * gateFactor signal.side) mark))
  | overflow
      {price : Decimal}
      (admissible : Admissible signal risk mark)
      (checked : IsChecked signal (some mark) mark price)
      (beyond : ¬ InRange (price * gateFactor signal.side))
  | unprintable
      (admissible : Admissible signal risk mark)
      (long : ¬ PrintableInt attempt)

variable {signal : NormalizedSignal}
variable {risk : RiskDecision Reason}
variable {attempt : Int}
variable {mark price : Decimal}

/-- A limit entry is within the gate exactly if its price is not stale. -/
theorem withinGate_iff (priced : signal.entryPrice = some price) :
    WithinGate signal mark ↔
      ¬ PastBound signal.side (price * gateFactor signal.side) mark := by
  have bounds :
      ((signal.side = .long → mark ≤ 101 / 100 * price) ∧
          (signal.side = .short → 99 / 100 * price ≤ mark)) ↔
        ¬ PastBound signal.side (price * gateFactor signal.side) mark := by
    rw [mul_comm (101 / 100) price, mul_comm (99 / 100) price]
    cases signal.side with
    | long => simp [PastBound, gateFactor]
    | short => simp [PastBound, gateFactor]
  rw [← bounds]
  constructor
  · intro within
    obtain ⟨other, isOther, otherBounds⟩ := within
    cases priced.symm.trans isOther
    exact otherBounds
  · exact fun within => ⟨price, priced, within⟩

/-- The default context computes a bound exactly in its range. -/
theorem bound_eq_ok_iff {number bound : Decimal} {side : Side} :
    contextArithmetic.multiply number (gateFactor side) = .ok bound ↔
      InRange (number * gateFactor side) ∧
        defaultContext.rounded (number * gateFactor side) = bound :=
  finalize_eq_ok_iff

/-- The default context raises on a bound exactly beyond its range. -/
theorem bound_raises_iff {number : Decimal} {side : Side} :
    (∃ signalled,
        contextArithmetic.multiply number (gateFactor side) =
          .error signalled) ↔
      ¬ InRange (number * gateFactor side) := by
  cases computed : contextArithmetic.multiply number (gateFactor side) with
  | ok bound =>
      refine iff_of_false (by simp) (not_not.mpr ?_)
      exact (bound_eq_ok_iff.mp computed).1
  | error signalled =>
      refine iff_of_true ⟨_, rfl⟩ ?_
      intro inRange
      rw [bound_eq_ok_iff.mpr ⟨inRange, rfl⟩] at computed
      cases computed

/-- A limit entry without a price, or a plan without a size, is refused. -/
theorem sized_of_not_refused
    {arithmetic : DecimalArithmetic}
    {markPrice : Option Decimal}
    (passes : ¬ EntryRefused arithmetic signal risk markPrice) :
    Sized risk ∧
      (signal.entryType = .limit → ∃ price, signal.entryPrice = some price) := by
  refine ⟨⟨?_, ?_⟩, ?_⟩
  · by_contra denied
    exact passes (.denied (by simpa using denied))
  · by_contra unsized
    push Not at unsized
    exact passes (.unsized unsized)
  · intro isLimit
    cases priced : signal.entryPrice with
    | none => exact absurd (.unpriced isLimit priced) passes
    | some price => exact ⟨price, rfl⟩

/-- A sized entry is refused by the late-entry check only. -/
theorem late_of_refused
    {arithmetic : DecimalArithmetic}
    {markPrice : Option Decimal}
    (sized : Sized risk)
    (priced :
      signal.entryType = .limit → ∃ price, signal.entryPrice = some price)
    (refused : EntryRefused arithmetic signal risk markPrice) :
    ∃ mark price bound, IsChecked signal markPrice mark price ∧
      arithmetic.multiply price (gateFactor signal.side) = .ok bound ∧
        PastBound signal.side bound mark := by
  cases refused with
  | denied denied =>
      cases denied.symm.trans sized.allowed
  | unsized unsized =>
      obtain ⟨quantity, present, positive⟩ := sized.sized
      exact absurd positive (not_lt.mpr (unsized quantity present))
  | unpriced isLimit noPrice =>
      obtain ⟨price, isPrice⟩ := priced isLimit
      cases noPrice.symm.trans isPrice
  | late checked computed past => exact ⟨_, _, _, checked, computed, past⟩

/-- The planner lets an entry pass. -/
def Passes
    (signal : NormalizedSignal)
    (risk : RiskDecision Reason)
    (attempt : Int)
    (mark : Decimal) : Prop :=
  ¬ EntryRefused contextArithmetic signal risk (some mark) ∧
    ¬ PlanRaises contextArithmetic signal attempt (some mark)

/-- Nothing is planned for an attempt that cannot be written out. -/
theorem judged_of_unprintable (long : ¬ PrintableInt attempt) :
    (Passes signal risk attempt mark ↔ Admissible signal risk mark) ↔
      ¬ Misjudged signal risk attempt mark := by
  have raises : ¬ Passes signal risk attempt mark :=
    fun passes => passes.2 (.attempt long)
  rw [iff_false_left raises, not_iff_not]
  constructor
  · exact fun admissible => .unprintable admissible long
  · intro misjudged
    cases misjudged with
    | unchecked printable _ _ _ _ _ => exact absurd printable long
    | rounded printable _ _ _ _ => exact absurd printable long
    | overflow admissible _ _ => exact admissible
    | unprintable admissible _ => exact admissible

/-- An entry without a size or a price neither passes nor is admissible. -/
theorem judged_of_unsound
    (unsound :
      ¬ (Sized risk ∧
        (signal.entryType = .limit →
          ∃ price, signal.entryPrice = some price))) :
    (Passes signal risk attempt mark ↔ Admissible signal risk mark) ↔
      ¬ Misjudged signal risk attempt mark := by
  have inadmissible : ¬ Admissible signal risk mark := by
    intro admissible
    refine unsound ⟨admissible.toSized, ?_⟩
    intro isLimit
    obtain ⟨price, priced, _⟩ := admissible.gate isLimit
    exact ⟨price, priced⟩
  refine iff_of_true (iff_of_false ?_ inadmissible) ?_
  · exact fun passes => unsound (sized_of_not_refused passes.1)
  · intro misjudged
    cases misjudged with
    | unchecked _ sized _ priced _ _ =>
        exact unsound ⟨sized, fun _ => ⟨_, priced⟩⟩
    | rounded _ sized checked _ _ =>
        exact unsound ⟨sized, fun _ => ⟨_, checked.priced⟩⟩
    | overflow admissible _ _ => exact inadmissible admissible
    | unprintable admissible _ => exact inadmissible admissible

/-- An entry the gate does not look at passes. -/
theorem judged_of_unchecked
    (printable : PrintableInt attempt)
    (sized : Sized risk)
    (priced :
      signal.entryType = .limit → ∃ price, signal.entryPrice = some price)
    (unchecked : ∀ price, ¬ IsChecked signal (some mark) mark price) :
    (Passes signal risk attempt mark ↔ Admissible signal risk mark) ↔
      ¬ Misjudged signal risk attempt mark := by
  have passes : Passes signal risk attempt mark := by
    constructor
    · intro refused
      obtain ⟨_, price, _, checked, _⟩ :=
        late_of_refused sized priced refused
      cases checked.marked
      exact unchecked price checked
    · intro raises
      cases raises with
      | bound checked _ =>
          cases checked.marked
          exact unchecked _ checked
      | attempt unprintable => exact unprintable printable
  rw [iff_true_left passes]
  constructor
  · intro admissible misjudged
    cases misjudged with
    | unchecked _ _ isLimit isPriced _ stale =>
        exact (withinGate_iff isPriced).mp (admissible.gate isLimit) stale
    | rounded _ _ checked _ _ => exact unchecked _ checked
    | overflow _ checked _ => exact unchecked _ checked
    | unprintable _ long => exact long printable
  · intro judged
    refine ⟨sized, ?_⟩
    intro isLimit
    obtain ⟨price, isPriced⟩ := priced isLimit
    rw [withinGate_iff isPriced]
    intro stale
    refine judged (.unchecked printable sized isLimit isPriced ?_ stale)
    by_contra nonzero
    rw [not_or] at nonzero
    exact unchecked price ⟨isLimit, rfl, isPriced, nonzero.1, nonzero.2⟩

section Checked

variable (checked : IsChecked signal (some mark) mark price)

include checked

/-- A checked entry is admissible exactly up to the bound of its price. -/
theorem admissible_iff_of_checked (sized : Sized risk) :
    Admissible signal risk mark ↔
      ¬ PastBound signal.side (price * gateFactor signal.side) mark := by
  rw [← withinGate_iff checked.priced]
  exact ⟨fun admissible => admissible.gate checked.isLimit,
    fun gate => ⟨sized, fun _ => gate⟩⟩

/-- A checked entry passes exactly up to the bound in 28 digits. -/
theorem passes_iff_of_inRange
    (printable : PrintableInt attempt)
    (sized : Sized risk)
    (inRange : InRange (price * gateFactor signal.side)) :
    Passes signal risk attempt mark ↔
      ¬ PastBound signal.side
        (defaultContext.rounded (price * gateFactor signal.side)) mark := by
  constructor
  · intro passes past
    exact passes.1
      (.late checked (bound_eq_ok_iff.mpr ⟨inRange, rfl⟩) past)
  · intro before
    constructor
    · intro refused
      obtain ⟨_, _, bound, otherChecked, computed, past⟩ :=
        late_of_refused sized (fun _ => ⟨price, checked.priced⟩) refused
      cases otherChecked.marked
      cases checked.priced.symm.trans otherChecked.priced
      obtain ⟨_, rfl⟩ := bound_eq_ok_iff.mp computed
      exact before past
    · intro raises
      cases raises with
      | bound otherChecked raised =>
          cases checked.priced.symm.trans otherChecked.priced
          exact bound_raises_iff.mp ⟨_, raised⟩ inRange
      | attempt unprintable => exact unprintable printable

/-- A checked entry is misjudged between the bound and its 28 digits. -/
theorem judged_of_inRange
    (printable : PrintableInt attempt)
    (sized : Sized risk)
    (inRange : InRange (price * gateFactor signal.side)) :
    (Passes signal risk attempt mark ↔ Admissible signal risk mark) ↔
      ¬ Misjudged signal risk attempt mark := by
  rw [passes_iff_of_inRange checked printable sized inRange,
    admissible_iff_of_checked checked sized, not_iff_not]
  constructor
  · intro agree misjudged
    cases misjudged with
    | unchecked _ _ _ priced zero _ =>
        cases checked.priced.symm.trans priced
        exact zero.elim checked.markNonzero checked.priceNonzero
    | rounded _ _ otherChecked _ between =>
        cases checked.priced.symm.trans otherChecked.priced
        exact between agree
    | overflow _ otherChecked beyond =>
        cases checked.priced.symm.trans otherChecked.priced
        exact beyond inRange
    | unprintable _ long => exact long printable
  · intro judged
    by_contra between
    exact judged (.rounded printable sized checked inRange between)

/-- A checked entry whose bound overflows does not pass. -/
theorem judged_of_overflow
    (beyond : ¬ InRange (price * gateFactor signal.side)) :
    (Passes signal risk attempt mark ↔ Admissible signal risk mark) ↔
      ¬ Misjudged signal risk attempt mark := by
  have raises : ¬ Passes signal risk attempt mark := by
    intro passes
    obtain ⟨_, raised⟩ := bound_raises_iff.mpr beyond
    exact passes.2 (.bound checked raised)
  rw [iff_false_left raises, not_iff_not]
  constructor
  · exact fun admissible => .overflow admissible checked beyond
  · intro misjudged
    cases misjudged with
    | unchecked _ _ _ priced zero _ =>
        cases checked.priced.symm.trans priced
        exact absurd zero
          (not_or.mpr ⟨checked.markNonzero, checked.priceNonzero⟩)
    | rounded _ _ otherChecked inRange _ =>
        cases checked.priced.symm.trans otherChecked.priced
        exact absurd inRange beyond
    | overflow admissible _ _ => exact admissible
    | unprintable admissible _ => exact admissible

end Checked

/-- An entry passes exactly if it is admissible, unless it is misjudged. -/
theorem passes_iff_admissible_iff :
    (Passes signal risk attempt mark ↔ Admissible signal risk mark) ↔
      ¬ Misjudged signal risk attempt mark := by
  by_cases printable : PrintableInt attempt
  · by_cases sound :
        Sized risk ∧
          (signal.entryType = .limit →
            ∃ price, signal.entryPrice = some price)
    · by_cases checked : ∃ price, IsChecked signal (some mark) mark price
      · obtain ⟨price, checked⟩ := checked
        by_cases inRange : InRange (price * gateFactor signal.side)
        · exact judged_of_inRange checked printable sound.1 inRange
        · exact judged_of_overflow checked inRange
      · push Not at checked
        exact judged_of_unchecked printable sound.1 sound.2 checked
    · exact judged_of_unsound sound
  · exact judged_of_unprintable printable

/-- A plan that is not blocked carries the approved entry. -/
theorem plan_carriesEntry
    {arithmetic : DecimalArithmetic}
    {tradeId : UUID}
    {snapshot : EffectiveConfigSnapshot}
    {markPrice : Option Decimal}
    {entry : EntryPlan Reason}
    (planned :
      plan arithmetic tradeId signal snapshot risk attempt markPrice =
        .ok entry)
    (unblocked : entry.blocked = false) :
    CarriesEntry signal risk entry := by
  obtain ⟨terms, found, _, rfl⟩ := plan_eq_ok_iff.mp planned
  have isOpen : terms.blockReason = none := by
    simpa [draft] using unblocked
  unfold entryTerms at found
  cases approved : approvedQuantity? risk with
  | none =>
      rw [approved] at found
      cases found
      cases isOpen
  | some quantity =>
      obtain ⟨_, sized, _⟩ := approvedQuantity?_eq_some_iff.mp approved
      rw [approved] at found
      dsimp only at found
      split at found
      · cases found
        cases isOpen
      · obtain ⟨reason, _, rest⟩ := bind_eq_ok_iff.mp found
        cases reason with
        | none =>
            cases rest
            exact ⟨sized, rfl, rfl⟩
        | some late =>
            cases rest
            cases isOpen

/--
With a mark price, the planner opens exactly the admissible entries, with
their quantity, leverage and price, unless the gate misjudges the entry.
-/
theorem lateEntryGate_iff
    (tradeId : UUID)
    (signal : NormalizedSignal)
    (snapshot : EffectiveConfigSnapshot)
    (risk : RiskDecision Reason)
    (attempt : Int)
    (mark : Decimal) :
    (((∃ entry,
            plan contextArithmetic tradeId signal snapshot risk attempt
                (some mark) = .ok entry ∧
              entry.blocked = false) ↔
          Admissible signal risk mark) ∧
        ∀ entry,
          plan contextArithmetic tradeId signal snapshot risk attempt
              (some mark) = .ok entry →
            entry.blocked = false → CarriesEntry signal risk entry) ↔
      ¬ Misjudged signal risk attempt mark := by
  rw [plan_opens_iff, ← Passes, passes_iff_admissible_iff]
  constructor
  · exact fun judged => judged.1
  · exact fun judged => ⟨judged, fun _ => plan_carriesEntry⟩

/-- A limit entry for BTCUSDT. -/
def limitEntry (side : Side) (price : Decimal) : NormalizedSignal :=
  { NormalizedSignal.default 1 "tg" "generic_structured" "1.0.0" "BTCUSDT"
      side with
    entryType := .limit
    entryPrice := some price }

/-- An approval of one coin. -/
def approvedCoin : RiskDecision RiskReason where
  allowed := true
  reason := .ok
  leverage := 1
  notionalUsdt := 10
  quantity := some 1
  maxLossUsdt := some 10

/-- A long limit entry at zero is open at any mark price. -/
theorem zeroPrice_passes_gate :
    ¬ ∀ (tradeId : UUID) (signal : NormalizedSignal)
        (snapshot : EffectiveConfigSnapshot)
        (risk : RiskDecision RiskReason) (attempt : Int) (mark : Decimal),
      0 ≤ mark →
        ((∃ entry,
            plan contextArithmetic tradeId signal snapshot risk attempt
                (some mark) = .ok entry ∧
              entry.blocked = false) ↔
          Admissible signal risk mark) := by
  intro gated
  have admissible :=
    (gated 1 (limitEntry .long 0)
      (EffectiveConfigSnapshot.default "tg" "acc" "p" "1") approvedCoin 0
      65000 (by decide)).mp
        ⟨_, plan_eq_ok_iff.mpr ⟨⟨1, some 0, none⟩, rfl, by decide, rfl⟩, rfl⟩
  obtain ⟨price, priced, below, _⟩ := admissible.gate rfl
  cases priced
  exact absurd (below rfl) (by decide +kernel)

end EntryPlanner

end SafeSignalTrader
