import SafeSignalTrader.DomainModels

/-!
# The protection planner

`ProtectionPlanner` of `core/protection/planner.py`: the initial stop of a
position, and the stop after a take-profit or a proposal.
-/

namespace SafeSignalTrader

/-- The protection of a position. -/
structure ProtectionPlan where
  initialStop : Option Decimal
  saferStop : Option Decimal
  reason : String
  isProtected : Bool
  deriving Repr, DecidableEq

namespace ProtectionPlanner

/-- `ProtectionPlanner.initial_stop`; it never reads the entry price. -/
def initialStop
    (signal : NormalizedSignal)
    (snapshot : EffectiveConfigSnapshot)
    (_entryPrice : Option Decimal := none) : ProtectionPlan :=
  match signal.stopLoss with
  | none =>
      if snapshot.slMode = .none then
        { initialStop := none
          saferStop := none
          reason := "sl_mode=none"
          isProtected := false }
      else
        { initialStop := none
          saferStop := none
          reason := "missing stop_loss"
          isProtected := false }
  | some stop =>
      { initialStop := some stop
        saferStop := some stop
        reason := "signal SL"
        isProtected := true }

/-- The initial stop is the stop loss of the signal, under every mode. -/
theorem initialStop_initialStop
    {signal : NormalizedSignal}
    {snapshot : EffectiveConfigSnapshot}
    {entryPrice : Option Decimal} :
    (initialStop signal snapshot entryPrice).initialStop =
      signal.stopLoss := by
  unfold initialStop
  split
  · next noStop =>
      rw [noStop]
      split <;> rfl
  · next stop present =>
      exact present.symm

/-- A position is reported as protected exactly if the signal has a stop. -/
theorem initialStop_isProtected
    {signal : NormalizedSignal}
    {snapshot : EffectiveConfigSnapshot}
    {entryPrice : Option Decimal} :
    (initialStop signal snapshot entryPrice).isProtected =
      signal.stopLoss.isSome := by
  unfold initialStop
  split
  · next noStop =>
      rw [noStop]
      split <;> rfl
  · next stop present =>
      rw [present]
      rfl

/-- `_is_safer`: the candidate is at least as protective as the current stop. -/
def isSafer (side : Side) (current candidate : Decimal) : Bool :=
  match side with
  | .long => current ≤ candidate
  | .short => candidate ≤ current

/-- The stop `after_tp` considers under the stop mode of the snapshot. -/
def candidateStop
    (mode : SlMode)
    (currentStop entryPrice : Decimal)
    (previousTpPrice : Option Decimal) : Decimal :=
  match mode, previousTpPrice with
  | .breakEven, _ => entryPrice
  | .moveToPreviousTp, some price => price
  | .lockProfitUsdt, _ => entryPrice
  | _, _ => currentStop

/-- `ProtectionPlanner.after_tp`; it never reads the level that was hit. -/
def afterTp
    (side : Side)
    (currentStop entryPrice : Decimal)
    (_hitTp : TakeProfitLevel)
    (snapshot : EffectiveConfigSnapshot)
    (previousTpPrice : Option Decimal := none) : ProtectionPlan :=
  let candidate :=
    candidateStop snapshot.slMode currentStop entryPrice previousTpPrice
  { initialStop := some currentStop
    saferStop :=
      some (if isSafer side currentStop candidate then
        candidate
      else
        currentStop)
    reason := "after_tp mode=" ++ snapshot.slMode.value
    isProtected := true }

/-- `ProtectionPlanner.never_worsen`. -/
def neverWorsen (side : Side) (current proposed : Decimal) : Decimal :=
  if isSafer side current proposed then proposed else current

/-- The stop after a take-profit is the candidate, clamped like a proposal. -/
theorem afterTp_saferStop
    (side : Side)
    (currentStop entryPrice : Decimal)
    (hitTp : TakeProfitLevel)
    (snapshot : EffectiveConfigSnapshot)
    (previousTpPrice : Option Decimal) :
    (afterTp side currentStop entryPrice hitTp snapshot
        previousTpPrice).saferStop =
      some (neverWorsen side currentStop
        (candidateStop snapshot.slMode currentStop entryPrice
          previousTpPrice)) :=
  rfl

end ProtectionPlanner

end SafeSignalTrader
