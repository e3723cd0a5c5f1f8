import SafeSignalTrader.DecimalSizing
import SafeSignalTrader.EntryPlanner
import SafeSignalTrader.ParserFields
import SafeSignalTrader.ProtectionPlanner

/-!
# Protection of planned entries

Whether an entry that the entry planner lets through has an initial stop from
the protection planner.  Neither planner asks the other, and the entry planner
never looks at the stop loss.
-/

namespace SafeSignalTrader

/-- A plan that is returned and lets the entry through comes with a stop. -/
def OpensProtected
    {Reason : Type}
    (planned : Except PyException (EntryPlan Reason))
    (protection : ProtectionPlan) : Prop :=
  ∀ entry, planned = .ok entry → entry.blocked = false →
    protection.isProtected = true ∧ protection.initialStop.isSome = true

/-- The initial stop protects a position exactly if the signal has a stop. -/
theorem initialStop_protects_iff
    {signal : NormalizedSignal}
    {snapshot : EffectiveConfigSnapshot}
    {entryPrice : Option Decimal} :
    let protection :=
      ProtectionPlanner.initialStop signal snapshot entryPrice
    (protection.isProtected = true ∧ protection.initialStop.isSome = true) ↔
      signal.stopLoss.isSome = true := by
  intro protection
  rw [ProtectionPlanner.initialStop_isProtected,
    ProtectionPlanner.initialStop_initialStop, and_self]

/--
An entry opens protected exactly if the signal has a stop loss, or the entry is
refused on other grounds, or planning it raises, whatever the stop mode of the
snapshot.
-/
theorem positionProtected
    {Reason : Type}
    (tradeId : UUID)
    (signal : NormalizedSignal)
    (snapshot : EffectiveConfigSnapshot)
    (risk : RiskDecision Reason)
    (attempt : Int)
    (markPrice entryPrice : Option Decimal) :
    OpensProtected
        (EntryPlanner.plan contextArithmetic tradeId signal snapshot risk
          attempt markPrice)
        (ProtectionPlanner.initialStop signal snapshot entryPrice) ↔
      signal.stopLoss.isSome = true ∨
        EntryPlanner.EntryRefused contextArithmetic signal risk markPrice ∨
          EntryPlanner.PlanRaises contextArithmetic signal attempt
            markPrice := by
  have opensIff :
      (∃ entry,
          EntryPlanner.plan contextArithmetic tradeId signal snapshot risk
              attempt markPrice = .ok entry ∧
            entry.blocked = false) ↔
        ¬ (EntryPlanner.EntryRefused contextArithmetic signal risk
              markPrice ∨
            EntryPlanner.PlanRaises contextArithmetic signal attempt
              markPrice) := by
    rw [EntryPlanner.plan_opens_iff, not_or]
  constructor
  · intro opens
    by_cases passes :
        EntryPlanner.EntryRefused contextArithmetic signal risk markPrice ∨
          EntryPlanner.PlanRaises contextArithmetic signal attempt markPrice
    · exact Or.inr passes
    · obtain ⟨entry, planned, opened⟩ := opensIff.mpr passes
      exact Or.inl
        (initialStop_protects_iff.mp (opens entry planned opened))
  · intro safe entry planned opened
    rcases safe with stop | fails
    · exact initialStop_protects_iff.mpr stop
    · exact absurd fails (opensIff.mp ⟨entry, planned, opened⟩)

/--
A market signal without a stop line is parsed, approved by the risk engine and
planned under break-even management, and no stop protects the position.
-/
theorem unprotected_entry_planned :
    ¬ ∀ (computeHash : String → String) (signalId tradeId : UUID)
        (text sourceId : String) (messageId : Option String)
        (rawHash : Option PyString)
        (signal : NormalizedSignal) (snapshot : EffectiveConfigSnapshot)
        (symbolRules : Option SymbolRules) (risk : RiskDecision RiskReason)
        (attempt : Int) (markPrice entryPrice : Option Decimal),
      GenericStructuredParser.parse computeHash signalId text sourceId
          messageId rawHash = .ok (some signal) →
        snapshot.slMode ≠ .none →
          RiskEngine.evaluateWith contextArithmetic signal snapshot
              symbolRules 0 0 5 markPrice = .ok risk →
            OpensProtected
              (EntryPlanner.plan contextArithmetic tradeId signal snapshot
                risk attempt markPrice)
              (ProtectionPlanner.initialStop signal snapshot entryPrice) := by
  intro protects
  let snapshot :=
    EffectiveConfigSnapshot.default "src_demo_alpha" "demo" "default" "1.0.0"
  let signal : NormalizedSignal :=
    { NormalizedSignal.default 1 "src_demo_alpha" "generic_structured" "1.0.0"
        "ETHUSDT" .long with
      rawHash := some "hash" }
  have parsed :
      GenericStructuredParser.parse (fun _ => "hash") 1 "SIGNAL LONG ETH"
        "src_demo_alpha" none none = .ok (some signal) := by
    decide +kernel
  let risk : RiskDecision RiskReason :=
    { allowed := true
      reason := .ok
      leverage := 1
      notionalUsdt := 68 / 10
      quantity := some (2 / 1000)
      maxLossUsdt := some 10 }
  have evaluated :
      RiskEngine.evaluateWith contextArithmetic signal snapshot
          (some (SymbolRules.default "ETHUSDT")) 0 0 5 (some 3400) =
        .ok risk :=
    toOption_eq_some_iff.mp (by decide +kernel)
  have opened :
      ∃ entry,
        EntryPlanner.plan contextArithmetic 2 signal snapshot risk 0
            (some 3400) = .ok entry ∧
          entry.blocked = false := by
    have terms :
        EntryPlanner.entryTerms contextArithmetic signal risk (some 3400) =
          .ok ⟨2 / 1000, none, none⟩ :=
      toOption_eq_some_iff.mp (by decide +kernel)
    exact ⟨_, EntryPlanner.plan_eq_ok_iff.mpr
      ⟨_, terms, by decide, rfl⟩, rfl⟩
  obtain ⟨entry, planned, unblocked⟩ := opened
  have covered :=
    protects (fun _ => "hash") 1 2 "SIGNAL LONG ETH" "src_demo_alpha" none
      none signal snapshot (some (SymbolRules.default "ETHUSDT")) risk 0
      (some 3400) (some 3400) parsed (by decide) evaluated entry planned
      unblocked
  cases covered.1

end SafeSignalTrader
