import SafeSignalTrader.DecimalArithmetic
import SafeSignalTrader.PositionalNumerals
import SafeSignalTrader.PythonText
import SafeSignalTrader.RiskEngine

/-!
# The entry planner

`EntryPlanner.plan` of `core/entry/planner.py` over a decimal arithmetic, with
the client order id it gives to a plan.  The reason of a risk decision ranges
over an arbitrary type.
-/

namespace SafeSignalTrader

open DecimalContext PythonText

/-- Why a plan is blocked. -/
inductive BlockReason (Reason : Type) where
  | riskRejected (reason : Reason)
  | limitWithoutPrice
  | lateLong
  | lateShort
  deriving Repr, DecidableEq

/-- The reason text; `render` gives the text of a risk reason. -/
def BlockReason.text
    {Reason : Type}
    (render : Reason → String) : BlockReason Reason → String
  | .riskRejected reason => render reason
  | .limitWithoutPrice => "limit entry requires price"
  | .lateLong => "late entry: mark above limit for LONG"
  | .lateShort => "late entry: mark below limit for SHORT"

/-- An entry that a job worker can turn into an order. -/
structure EntryPlan (Reason : Type) where
  tradeId : UUID
  symbol : String
  side : Side
  entryType : EntryType
  quantity : Decimal
  price : Option Decimal
  leverage : Int
  clientOrderId : String
  stopLoss : Option Decimal
  snapshotHash : String
  blocked : Bool
  blockReason : Option (BlockReason Reason)
  deriving Repr, DecidableEq

/-- `uuid.hex`. -/
def UUID.hex (uuid : UUID) : String :=
  String.ofList (PositionalNumerals.fixedDigits 16 32 uuid.toNat)

/-- An integer that Python's digit limit lets be written out. -/
def PrintableInt (number : Int) : Prop :=
  (Nat.toDigits 10 number.natAbs).length ≤ maxIntDigits

instance decidablePrintableInt (number : Int) :
    Decidable (PrintableInt number) :=
  inferInstanceAs (Decidable (_ ≤ _))

/-- The text of an integer in a format string. -/
def formatInt (number : Int) : Except PyException String :=
  if PrintableInt number then
    .ok (toString number)
  else
    .error (.valueError
      ("Exceeds the limit (4300 digits) for integer string conversion; " ++
        "use sys.set_int_max_str_digits() to increase the limit"))

theorem formatInt_eq_ok_iff {number : Int} {numeral : String} :
    formatInt number = .ok numeral ↔
      PrintableInt number ∧ toString number = numeral := by
  unfold formatInt
  split
  · next printable => simp [printable]
  · next unprintable => simp [unprintable]

namespace EntryPlanner

variable {Reason : Type}

/-- The client order id of a trade and an attempt written as a numeral. -/
def clientOrderIdText (tradeId : UUID) (numeral : String) : String :=
  let raw := "sst-" ++ String.ofList (tradeId.hex.toList.take 16) ++ "-a" ++
    numeral
  String.ofList (raw.toList.take 36)

/-- `_deterministic_client_order_id`; writing out the attempt may raise. -/
def deterministicClientOrderId
    (tradeId : UUID)
    (attempt : Int) : Except PyException String :=
  (formatInt attempt).map (clientOrderIdText tradeId)

/-- What a plan says of the entry: its quantity, price and block. -/
structure EntryTerms (Reason : Type) where
  quantity : Decimal
  price : Option Decimal
  blockReason : Option (BlockReason Reason)
  deriving Repr, DecidableEq

/-- A plan for the signal; it is blocked exactly if it has a reason to be. -/
def draft
    (tradeId : UUID)
    (signal : NormalizedSignal)
    (snapshot : EffectiveConfigSnapshot)
    (risk : RiskDecision Reason)
    (terms : EntryTerms Reason)
    (clientOrderId : String) : EntryPlan Reason where
  tradeId := tradeId
  symbol := signal.symbol
  side := signal.side
  entryType := signal.entryType
  quantity := terms.quantity
  price := terms.price
  leverage := risk.leverage
  clientOrderId := clientOrderId
  stopLoss := signal.stopLoss
  snapshotHash := snapshot.configHash
  blocked := terms.blockReason.isSome
  blockReason := terms.blockReason

/-- The quantity of an approval; `none` sends the plan to the risk rejection. -/
def approvedQuantity? (risk : RiskDecision Reason) : Option Decimal :=
  match risk.quantity with
  | none => none
  | some quantity =>
      if risk.allowed = false ∨ quantity ≤ 0 then
        none
      else
        some quantity

variable (arithmetic : DecimalArithmetic)

/--
The late-entry check; a mark price or a limit price of zero is false in
Python and skips it.
-/
def lateEntryReason
    (signal : NormalizedSignal)
    (markPrice : Option Decimal) :
    Except DecimalSignal (Option (BlockReason Reason)) :=
  match markPrice, signal.entryPrice with
  | some mark, some price =>
      if mark ≠ 0 ∧ price ≠ 0 ∧ signal.entryType = .limit then
        match signal.side with
        | .long => do
            let bound ← arithmetic.multiply price (101 / 100)
            return if bound < mark then some .lateLong else none
        | .short => do
            let bound ← arithmetic.multiply price (99 / 100)
            return if mark < bound then some .lateShort else none
      else
        return none
  | _, _ => return none

/-- The exits of `plan`, in order. -/
def entryTerms
    (signal : NormalizedSignal)
    (risk : RiskDecision Reason)
    (markPrice : Option Decimal) :
    Except DecimalSignal (EntryTerms Reason) :=
  match approvedQuantity? risk with
  | none =>
      return ⟨0, signal.entryPrice, some (.riskRejected risk.reason)⟩
  | some quantity =>
      if signal.entryType = .limit ∧ signal.entryPrice = none then
        return ⟨quantity, none, some .limitWithoutPrice⟩
      else do
        match ← lateEntryReason arithmetic signal markPrice with
        | some late => return ⟨quantity, signal.entryPrice, some late⟩
        | none =>
            return ⟨quantity,
              if signal.entryType = .limit then signal.entryPrice else none,
              none⟩

/-- `EntryPlanner.plan`; every exit writes out the client order id. -/
def plan
    (tradeId : UUID)
    (signal : NormalizedSignal)
    (snapshot : EffectiveConfigSnapshot)
    (risk : RiskDecision Reason)
    (attempt : Int := 0)
    (markPrice : Option Decimal := none) :
    Except PyException (EntryPlan Reason) := do
  let terms ← (entryTerms arithmetic signal risk markPrice).mapError .decimal
  let clientOrderId ← deterministicClientOrderId tradeId attempt
  return draft tradeId signal snapshot risk terms clientOrderId

/-- An approved quantity is that of an approval, and positive. -/
theorem approvedQuantity?_eq_some_iff
    {risk : RiskDecision Reason}
    {quantity : Decimal} :
    approvedQuantity? risk = some quantity ↔
      risk.allowed = true ∧ risk.quantity = some quantity ∧ 0 < quantity := by
  unfold approvedQuantity?
  cases risk.quantity with
  | none =>
      simp
  | some present =>
      by_cases refused : risk.allowed = false ∨ present ≤ 0
      · simp only [if_pos refused, reduceCtorEq, Option.some.injEq, false_iff]
        intro approved
        obtain ⟨allowed, rfl, positive⟩ := approved
        rcases refused with denied | empty
        · rw [denied] at allowed
          cases allowed
        · exact absurd positive (not_lt_of_ge empty)
      · simp only [if_neg refused, Option.some.injEq]
        push Not at refused
        constructor
        · intro same
          subst same
          exact ⟨by simpa using refused.1, rfl, refused.2⟩
        · intro approved
          obtain ⟨_, same, _⟩ := approved
          exact same

/-- The late-entry check looks at a limit entry whose prices are not zero. -/
structure IsChecked
    (signal : NormalizedSignal)
    (markPrice : Option Decimal)
    (mark price : Decimal) : Prop where
  isLimit : signal.entryType = .limit
  marked : markPrice = some mark
  priced : signal.entryPrice = some price
  markNonzero : mark ≠ 0
  priceNonzero : price ≠ 0

/-- The factor between a limit price and the furthest mark price for it. -/
def gateFactor : Side → Decimal
  | .long => 101 / 100
  | .short => 99 / 100

/-- A mark price is past the bound of an entry. -/
def PastBound (side : Side) (bound mark : Decimal) : Prop :=
  match side with
  | .long => bound < mark
  | .short => mark < bound

instance decidablePastBound
    (side : Side)
    (bound mark : Decimal) :
    Decidable (PastBound side bound mark) :=
  match side with
  | .long => inferInstanceAs (Decidable (bound < mark))
  | .short => inferInstanceAs (Decidable (mark < bound))

/-- The reason that blocks a late entry. -/
def lateReason : Side → BlockReason Reason
  | .long => .lateLong
  | .short => .lateShort

section Checks

variable {arithmetic : DecimalArithmetic}
variable {signal : NormalizedSignal}
variable {markPrice : Option Decimal}
variable {mark price : Decimal}

/-- The check computes the bound of a checked entry and compares. -/
theorem lateEntryReason_of_checked
    (checked : IsChecked signal markPrice mark price) :
    @lateEntryReason Reason arithmetic signal markPrice =
      (arithmetic.multiply price (gateFactor signal.side)).map fun bound =>
        if PastBound signal.side bound mark then
          some (lateReason signal.side)
        else
          none := by
  unfold lateEntryReason
  rw [checked.marked, checked.priced]
  dsimp only
  rw [if_pos ⟨checked.markNonzero, checked.priceNonzero, checked.isLimit⟩]
  cases signal.side with
  | long =>
      dsimp only [gateFactor]
      cases arithmetic.multiply price (101 / 100) <;> rfl
  | short =>
      dsimp only [gateFactor]
      cases arithmetic.multiply price (99 / 100) <;> rfl

/-- An entry that is not checked is not late. -/
theorem lateEntryReason_of_unchecked
    (unchecked : ∀ mark price, ¬ IsChecked signal markPrice mark price) :
    @lateEntryReason Reason arithmetic signal markPrice = .ok none := by
  unfold lateEntryReason
  cases marked : markPrice with
  | none => rfl
  | some mark =>
      cases priced : signal.entryPrice with
      | none => rfl
      | some price =>
          dsimp only
          rw [if_neg]
          · rfl
          · intro checked
            exact unchecked mark price
              ⟨checked.2.2, marked, priced, checked.1, checked.2.1⟩

/-- An entry is clear exactly if no bound it is checked with is passed. -/
theorem lateEntryReason_clear_iff :
    @lateEntryReason Reason arithmetic signal markPrice = .ok none ↔
      ∀ mark price, IsChecked signal markPrice mark price →
        ∃ bound,
          arithmetic.multiply price (gateFactor signal.side) = .ok bound ∧
            ¬ PastBound signal.side bound mark := by
  by_cases checked : ∃ mark price, IsChecked signal markPrice mark price
  · obtain ⟨mark, price, checked⟩ := checked
    rw [lateEntryReason_of_checked checked, map_eq_ok_iff]
    constructor
    · rintro ⟨bound, computed, notLate⟩ other otherPrice otherChecked
      cases checked.marked.symm.trans otherChecked.marked
      cases checked.priced.symm.trans otherChecked.priced
      refine ⟨bound, computed, ?_⟩
      intro past
      rw [if_pos past] at notLate
      cases notLate
    · intro clear
      obtain ⟨bound, computed, notPast⟩ := clear mark price checked
      exact ⟨bound, computed, if_neg notPast⟩
  · push Not at checked
    rw [lateEntryReason_of_unchecked checked]
    exact iff_of_true rfl fun mark price isChecked =>
      absurd isChecked (checked mark price)

/-- The check gives no reason but that of a late entry. -/
theorem eq_lateReason
    {reason : BlockReason Reason}
    (late : lateEntryReason arithmetic signal markPrice = .ok (some reason)) :
    reason = lateReason signal.side := by
  by_cases checked : ∃ mark price, IsChecked signal markPrice mark price
  · obtain ⟨mark, price, checked⟩ := checked
    rw [lateEntryReason_of_checked checked, map_eq_ok_iff] at late
    obtain ⟨bound, _, isLate⟩ := late
    split at isLate
    · exact (Option.some.inj isLate).symm
    · cases isLate
  · push Not at checked
    rw [lateEntryReason_of_unchecked checked] at late
    cases late

end Checks

/-- The grounds on which an entry is refused. -/
inductive EntryRefused
    (signal : NormalizedSignal)
    (risk : RiskDecision Reason)
    (markPrice : Option Decimal) : Prop where
  | denied
      (denied : risk.allowed = false)
  | unsized
      (unsized : ∀ quantity, risk.quantity = some quantity → quantity ≤ 0)
  | unpriced
      (isLimit : signal.entryType = .limit)
      (noPrice : signal.entryPrice = none)
  | late
      {mark price bound : Decimal}
      (checked : IsChecked signal markPrice mark price)
      (computed :
        arithmetic.multiply price (gateFactor signal.side) = .ok bound)
      (past : PastBound signal.side bound mark)

/--
Planning an approved entry raises: the bound of a checked entry cannot be
computed, or the attempt cannot be written out.
-/
inductive PlanRaises
    (signal : NormalizedSignal)
    (attempt : Int)
    (markPrice : Option Decimal) : Prop where
  | bound
      {mark price : Decimal}
      {signalled : DecimalSignal}
      (checked : IsChecked signal markPrice mark price)
      (raised :
        arithmetic.multiply price (gateFactor signal.side) =
          .error signalled)
  | attempt
      (unprintable : ¬ PrintableInt attempt)

section Plans

variable {arithmetic : DecimalArithmetic}
variable {tradeId : UUID}
variable {signal : NormalizedSignal}
variable {snapshot : EffectiveConfigSnapshot}
variable {risk : RiskDecision Reason}
variable {attempt : Int}
variable {markPrice : Option Decimal}

/-- The client order id is written out exactly for a printable attempt. -/
theorem deterministicClientOrderId_eq_ok_iff {clientOrderId : String} :
    deterministicClientOrderId tradeId attempt = .ok clientOrderId ↔
      PrintableInt attempt ∧
        clientOrderIdText tradeId (toString attempt) = clientOrderId := by
  rw [deterministicClientOrderId, map_eq_ok_iff]
  constructor
  · intro written
    obtain ⟨numeral, formatted, isId⟩ := written
    obtain ⟨printable, rfl⟩ := formatInt_eq_ok_iff.mp formatted
    exact ⟨printable, isId⟩
  · intro written
    exact ⟨_, formatInt_eq_ok_iff.mpr ⟨written.1, rfl⟩, written.2⟩

/-- What a plan that is returned is made of. -/
theorem plan_eq_ok_iff {entry : EntryPlan Reason} :
    plan arithmetic tradeId signal snapshot risk attempt markPrice =
        .ok entry ↔
      ∃ terms,
        entryTerms arithmetic signal risk markPrice = .ok terms ∧
          PrintableInt attempt ∧
            draft tradeId signal snapshot risk terms
              (clientOrderIdText tradeId (toString attempt)) = entry := by
  unfold plan
  rw [bind_eq_ok_iff]
  constructor
  · intro planned
    obtain ⟨terms, found, written⟩ := planned
    obtain ⟨clientOrderId, isId, drafted⟩ := bind_eq_ok_iff.mp written
    obtain ⟨printable, rfl⟩ := deterministicClientOrderId_eq_ok_iff.mp isId
    cases drafted
    exact ⟨terms, mapError_eq_ok_iff.mp found, printable, rfl⟩
  · intro planned
    obtain ⟨terms, found, printable, rfl⟩ := planned
    refine ⟨terms, mapError_eq_ok_iff.mpr found, ?_⟩
    exact bind_eq_ok_iff.mpr
      ⟨_, deterministicClientOrderId_eq_ok_iff.mpr ⟨printable, rfl⟩, rfl⟩

/-- Without an approved quantity the entry is refused. -/
theorem refused_of_approvedQuantity?_eq_none
    (rejected : approvedQuantity? risk = none) :
    EntryRefused arithmetic signal risk markPrice := by
  by_cases denied : risk.allowed = false
  · exact .denied denied
  · apply EntryRefused.unsized
    intro quantity present
    by_contra positive
    have approved : approvedQuantity? risk = some quantity :=
      approvedQuantity?_eq_some_iff.mpr
        ⟨by simpa using denied, present, lt_of_not_ge positive⟩
    rw [rejected] at approved
    cases approved

/-- The terms of an entry are open exactly if it passes the three exits. -/
theorem entryTerms_open_iff_passes :
    (∃ terms, entryTerms arithmetic signal risk markPrice = .ok terms ∧
        terms.blockReason = none) ↔
      (∃ quantity, approvedQuantity? risk = some quantity) ∧
        ¬ (signal.entryType = .limit ∧ signal.entryPrice = none) ∧
          @lateEntryReason Reason arithmetic signal markPrice =
            .ok none := by
  unfold entryTerms
  cases approvedQuantity? risk with
  | none =>
      refine iff_of_false ?_ ?_
      · rintro ⟨terms, found, unblocked⟩
        cases found
        cases unblocked
      · rintro ⟨⟨_, impossible⟩, _⟩
        cases impossible
  | some quantity =>
      by_cases unpriced :
          signal.entryType = .limit ∧ signal.entryPrice = none
      · simp only [if_pos unpriced]
        refine iff_of_false ?_ (fun passes => passes.2.1 unpriced)
        rintro ⟨terms, found, unblocked⟩
        cases found
        cases unblocked
      · simp only [if_neg unpriced]
        constructor
        · rintro ⟨terms, found, unblocked⟩
          obtain ⟨late, checked, rest⟩ := bind_eq_ok_iff.mp found
          cases late with
          | some reason =>
              cases rest
              cases unblocked
          | none => exact ⟨⟨quantity, rfl⟩, unpriced, checked⟩
        · rintro ⟨_, _, clear⟩
          rw [clear]
          exact ⟨_, rfl, rfl⟩

/-- The terms of an entry are open exactly if nothing refuses it or raises. -/
theorem entryTerms_open_iff
    (printable : PrintableInt attempt) :
    (∃ terms, entryTerms arithmetic signal risk markPrice = .ok terms ∧
        terms.blockReason = none) ↔
      ¬ EntryRefused arithmetic signal risk markPrice ∧
        ¬ PlanRaises arithmetic signal attempt markPrice := by
  rw [entryTerms_open_iff_passes, lateEntryReason_clear_iff]
  constructor
  · rintro ⟨⟨quantity, approved⟩, priced, clear⟩
    obtain ⟨allowed, sized, positive⟩ :=
      approvedQuantity?_eq_some_iff.mp approved
    constructor
    · intro refused
      cases refused with
      | denied denied =>
          rw [denied] at allowed
          cases allowed
      | unsized unsized =>
          exact absurd positive (not_lt_of_ge (unsized quantity sized))
      | unpriced isLimit noPrice => exact priced ⟨isLimit, noPrice⟩
      | late checked computed past =>
          obtain ⟨bound, isBound, notPast⟩ := clear _ _ checked
          cases computed.symm.trans isBound
          exact notPast past
    · intro raises
      cases raises with
      | bound checked raised =>
          obtain ⟨bound, isBound, _⟩ := clear _ _ checked
          cases raised.symm.trans isBound
      | attempt unprintable => exact unprintable printable
  · rintro ⟨passes, returns⟩
    refine ⟨?_, fun unpriced => passes (.unpriced unpriced.1 unpriced.2), ?_⟩
    · cases approved : approvedQuantity? risk with
      | none =>
          exact absurd (refused_of_approvedQuantity?_eq_none approved) passes
      | some quantity => exact ⟨quantity, rfl⟩
    · intro mark price checked
      cases computed :
          arithmetic.multiply price (gateFactor signal.side) with
      | error signalled => exact absurd (.bound checked computed) returns
      | ok bound =>
          exact ⟨bound, rfl, fun past => passes (.late checked computed past)⟩

/-- A plan is returned open exactly if nothing refuses the entry or raises. -/
theorem plan_opens_iff :
    (∃ entry,
        plan arithmetic tradeId signal snapshot risk attempt markPrice =
            .ok entry ∧
          entry.blocked = false) ↔
      ¬ EntryRefused arithmetic signal risk markPrice ∧
        ¬ PlanRaises arithmetic signal attempt markPrice := by
  by_cases printable : PrintableInt attempt
  · rw [← entryTerms_open_iff printable]
    constructor
    · rintro ⟨entry, planned, opened⟩
      obtain ⟨terms, found, _, rfl⟩ := plan_eq_ok_iff.mp planned
      exact ⟨terms, found, by simpa [draft] using opened⟩
    · rintro ⟨terms, found, unblocked⟩
      refine ⟨_, plan_eq_ok_iff.mpr ⟨terms, found, printable, rfl⟩, ?_⟩
      rw [draft, unblocked]
      rfl
  · refine iff_of_false ?_ ?_
    · rintro ⟨entry, planned, _⟩
      obtain ⟨_, _, isPrintable, _⟩ := plan_eq_ok_iff.mp planned
      exact printable isPrintable
    · intro passes
      exact passes.2 (.attempt printable)

end Plans

end EntryPlanner

end SafeSignalTrader
