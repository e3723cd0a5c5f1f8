import SafeSignalTrader.DomainModels

/-!
# The conflict resolver

`ConflictResolver.resolve` of `core/conflict/resolver.py`: what happens to a
signal on a symbol that already has open trades, under each policy.
-/

namespace SafeSignalTrader

/-- What to do with a signal. -/
inductive ConflictAction where
  | accept
  | reject
  | scaleIn
  | manualReview
  deriving Repr, DecidableEq

/-- Whether the caller opens a trade after an action. -/
def ConflictAction.opensTrade : ConflictAction → Bool
  | .accept => true
  | .scaleIn => true
  | _ => false

/-- An action and the reason for it. -/
structure ConflictDecision where
  action : ConflictAction
  reason : String
  deriving Repr, DecidableEq

/-- The view of an active trade that a conflict check reads. -/
structure OpenTradeRef where
  tradeId : String
  sourceId : String
  symbol : String
  side : Side
  accountId : String
  deriving Repr, DecidableEq

namespace ConflictResolver

/-- `pri.get(source_id, 0)` of `source_priority or {}`. -/
def priorityOf
    (sourcePriority : Option (OrderedDict String Int))
    (sourceId : String) : Int :=
  ((sourcePriority.getD .empty).get? sourceId).getD 0

/-- The branch of the source-priority policy: its loop returns at the first
open trade that is not outranked. -/
def resolvePriority
    (signal : NormalizedSignal)
    (sourcePriority : Option (OrderedDict String Int))
    (sameDir : List OpenTradeRef) : ConflictDecision :=
  match sameDir.find? fun trade =>
      priorityOf sourcePriority signal.sourceId ≤
        priorityOf sourcePriority trade.sourceId with
  | some trade =>
      { action := .reject
        reason := "existing source " ++ trade.sourceId ++
          " has higher/equal priority" }
  | none =>
      { action := .accept
        reason := "higher source priority" }

/--
`ConflictResolver.resolve`.  The last return of the source, for a policy it
does not know, is out of reach: the enumeration has no other policies.
-/
def resolve
    (signal : NormalizedSignal)
    (policy : ConflictPolicy)
    (openTrades : List OpenTradeRef)
    (sourcePriority : Option (OrderedDict String Int) := none) :
    ConflictDecision :=
  let sameSymbol := openTrades.filter fun trade =>
    trade.symbol = signal.symbol
  if sameSymbol = [] then
    { action := .accept
      reason := "no conflict" }
  else if (sameSymbol.filter fun trade => trade.side ≠ signal.side) ≠ [] then
    { action := .reject
      reason := "opposite direction open on " ++ signal.symbol }
  else
    let sameDir := sameSymbol.filter fun trade => trade.side = signal.side
    if sameDir = [] then
      { action := .accept
        reason := "no same-direction conflict" }
    else
      match policy with
      | .rejectSecond =>
          { action := .reject
            reason := "reject_second policy" }
      | .allowSameDirectionScaleIn =>
          { action := .scaleIn
            reason := "scale-in allowed" }
      | .dedicatedAccount =>
          { action := .accept
            reason := "dedicated_account – caller scopes" }
      | .sourcePriority => resolvePriority signal sourcePriority sameDir
      | .manualReview =>
          { action := .manualReview
            reason := "manual_review policy" }

end ConflictResolver

end SafeSignalTrader
