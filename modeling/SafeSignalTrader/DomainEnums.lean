/-!
# Domain enumerations

The exchange-agnostic enumerations of `domain/enums.py` that the modelled
components read.
-/

namespace SafeSignalTrader

/-- Trade direction. -/
inductive Side where
  | long
  | short
  deriving Repr, DecidableEq

/-- Direction of an order on the exchange. -/
inductive OrderSide where
  | buy
  | sell
  deriving Repr, DecidableEq

/-- How a position is entered. -/
inductive EntryType where
  | market
  | limit
  deriving Repr, DecidableEq

/-- Status of a queued order job. -/
inductive JobStatus where
  | pending
  | claimed
  | inProgress
  | completed
  | failed
  | manualReview
  | cancelled
  deriving Repr, DecidableEq

/-- How the stop loss is managed after entry. -/
inductive SlMode where
  | none
  | breakEven
  | fixedLossUsdt
  | lockProfitUsdt
  | moveToPreviousTp
  | custom
  deriving Repr, DecidableEq

/-- The stored value of a stop mode. -/
def SlMode.value : SlMode → String
  | .none => "none"
  | .breakEven => "break_even"
  | .fixedLossUsdt => "fixed_loss_usdt"
  | .lockProfitUsdt => "lock_profit_usdt"
  | .moveToPreviousTp => "move_to_previous_tp"
  | .custom => "custom"

/-- A stored value belongs to one stop mode. -/
theorem SlMode.value_injective
    {first second : SlMode}
    (same : first.value = second.value) :
    first = second := by
  cases first <;> cases second <;>
    first
    | rfl
    | exact absurd same (by decide)

/-- What happens at the last take-profit level. -/
inductive LastTpMode where
  | trailing
  | takeProfit
  | none
  deriving Repr, DecidableEq

/-- The stored value of a last-level mode. -/
def LastTpMode.value : LastTpMode → String
  | .trailing => "trailing"
  | .takeProfit => "take_profit"
  | .none => "none"

/-- A stored value belongs to one last-level mode. -/
theorem LastTpMode.value_injective
    {first second : LastTpMode}
    (same : first.value = second.value) :
    first = second := by
  cases first <;> cases second <;>
    first
    | rfl
    | exact absurd same (by decide)

/-- How a second signal on a symbol is treated. -/
inductive ConflictPolicy where
  | rejectSecond
  | allowSameDirectionScaleIn
  | dedicatedAccount
  | sourcePriority
  | manualReview
  deriving Repr, DecidableEq

/-- The stored value of a conflict policy. -/
def ConflictPolicy.value : ConflictPolicy → String
  | .rejectSecond => "reject_second"
  | .allowSameDirectionScaleIn => "allow_same_direction_scale_in"
  | .dedicatedAccount => "dedicated_account"
  | .sourcePriority => "source_priority"
  | .manualReview => "manual_review"

/-- A stored value belongs to one conflict policy. -/
theorem ConflictPolicy.value_injective
    {first second : ConflictPolicy}
    (same : first.value = second.value) :
    first = second := by
  cases first <;> cases second <;>
    first
    | rfl
    | exact absurd same (by decide)

end SafeSignalTrader
