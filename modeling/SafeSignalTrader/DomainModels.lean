import Mathlib.Data.Rat.Defs
import Mathlib.Algebra.Order.Ring.Rat
import SafeSignalTrader.DecimalContext
import SafeSignalTrader.DomainEnums
import SafeSignalTrader.OrderedDict
import SafeSignalTrader.PythonString

/-!
# Core domain models

The records of `domain/models.py`.  A field constraint that the record
validates on construction is a field of the structure, so a value that fails
validation cannot be built; the constructors that validate return an exception
instead.

Prices and sizes are exact rationals, `datetime` values count microseconds,
and `dict[str, Any]` payloads range over an arbitrary type of values.  A text
field with a length constraint takes no surrogates and is a Lean string.
-/

namespace SafeSignalTrader

/-- A 128-bit universally unique identifier. -/
abbrev UUID := BitVec 128

/-- A point in time, in microseconds since the start of 1970. -/
abbrev Instant := Int

/-- `timedelta(seconds=...)` in microseconds. -/
def timedelta (seconds : Int) : Int :=
  seconds * 1000000

/-- The first instant a `datetime` names, at the start of year 1. -/
def minInstant : Instant :=
  -62135596800000000

/-- The last instant a `datetime` names, at the end of year 9999. -/
def maxInstant : Instant :=
  253402300799999999

/--
`now + timedelta(seconds=...)` raises no `OverflowError`: the `timedelta` has
less than a billion days either way, and the sum has a year from 1 to 9999.
-/
def EndsInCalendar (now : Instant) (seconds : Int) : Prop :=
  (-999999999 * 86400 ≤ seconds ∧ seconds < 1000000000 * 86400) ∧
    minInstant ≤ now + timedelta seconds ∧
      now + timedelta seconds ≤ maxInstant

instance decidableEndsInCalendar
    (now : Instant)
    (seconds : Int) :
    Decidable (EndsInCalendar now seconds) :=
  inferInstanceAs (Decidable (_ ∧ _))

/-- A finite decimal, by its exact value. -/
abbrev Decimal := Rat

/-- Python's `a or b` on optional decimals: `None` and zero are both false. -/
def orDecimal (first second : Option Decimal) : Option Decimal :=
  match first with
  | some value => if value = 0 then second else some value
  | none => second

/-- One entry of a validation failure: the field it names and its message. -/
structure FieldError where
  field : String
  message : String
  deriving Repr, DecidableEq

/-- Exceptions the modelled code raises or catches. -/
inductive PyException where
  | validationError (model : String) (errors : List FieldError)
  | valueError (message : String)
  | keyError (key : String)
  | overflowError
  | unicodeEncodeError
  | decimal (signal : DecimalContext.DecimalSignal)
  | other (typeName message : String)
  deriving Repr, DecidableEq

/--
The hash of a text, over the digest of what it is encoded to; a text with a
surrogate cannot be encoded.
-/
def hashText
    (computeHash : String → String)
    (text : PyString) : Except PyException PyString :=
  match text.encode? with
  | some encoded => .ok (computeHash encoded)
  | none => .error .unicodeEncodeError

/-- Two computations in sequence return exactly if both of them do. -/
theorem bind_eq_ok_iff
    {Error First Second : Type}
    {first : Except Error First}
    {second : First → Except Error Second}
    {result : Second} :
    first >>= second = .ok result ↔
      ∃ value, first = .ok value ∧ second value = .ok result := by
  cases first with
  | error raised =>
      simp [bind, Except.bind]
  | ok value =>
      simp [bind, Except.bind]

/-- A converted computation returns exactly if the computation does. -/
theorem map_eq_ok_iff
    {Error First Second : Type}
    {computation : Except Error First}
    {convert : First → Second}
    {result : Second} :
    computation.map convert = .ok result ↔
      ∃ value, computation = .ok value ∧ convert value = result := by
  cases computation with
  | error raised =>
      simp [Except.map]
  | ok value =>
      simp [Except.map]

/-- Renaming exceptions keeps what is returned. -/
theorem mapError_eq_ok_iff
    {Error Renamed Result : Type}
    {computation : Except Error Result}
    {rename : Error → Renamed}
    {result : Result} :
    computation.mapError rename = .ok result ↔ computation = .ok result := by
  cases computation with
  | error raised =>
      simp [Except.mapError]
  | ok value =>
      simp [Except.mapError]

theorem toOption_eq_some_iff
    {Error Result : Type}
    {computation : Except Error Result}
    {result : Result} :
    computation.toOption = some result ↔ computation = .ok result := by
  cases computation with
  | error raised =>
      simp [Except.toOption]
  | ok value =>
      simp [Except.toOption]

/-- A take-profit level; its index and size percentage are validated. -/
structure TakeProfitLevel where
  index : Nat
  price : Decimal
  sizePct : Option Decimal
  indexInRange : 1 ≤ index ∧ index ≤ 5
  pctBounds : ∀ pct, sizePct = some pct → 0 < pct ∧ pct ≤ 100
  deriving Repr, DecidableEq

namespace TakeProfitLevel

/-- Range failures of the index field. -/
def indexErrors (index : Nat) : List FieldError :=
  if index < 1 then
    [⟨"index", "Input should be greater than or equal to 1"⟩]
  else if 5 < index then
    [⟨"index", "Input should be less than or equal to 5"⟩]
  else
    []

/-- Failures of the percentage validator. -/
def sizePctErrors (sizePct : Option Decimal) : List FieldError :=
  match sizePct with
  | none => []
  | some pct =>
      if pct ≤ 0 ∨ 100 < pct then
        [⟨"size_pct", "Value error, size_pct must be in (0, 100]"⟩]
      else
        []

theorem indexInRange_of_no_errors
    {index : Nat}
    (accepted : indexErrors index = []) :
    1 ≤ index ∧ index ≤ 5 := by
  unfold indexErrors at accepted
  split at accepted
  · cases accepted
  · split at accepted
    · cases accepted
    · omega

theorem pctBounds_of_no_errors
    {sizePct : Option Decimal}
    (accepted : sizePctErrors sizePct = [])
    (pct : Decimal)
    (present : sizePct = some pct) :
    0 < pct ∧ pct ≤ 100 := by
  subst present
  simp only [sizePctErrors] at accepted
  split at accepted
  · cases accepted
  · next inside =>
      exact ⟨lt_of_not_ge fun low => inside (Or.inl low),
        le_of_not_gt fun high => inside (Or.inr high)⟩

/-- `TakeProfitLevel(index=..., price=..., size_pct=...)`. -/
def create
    (index : Nat)
    (price : Decimal)
    (sizePct : Option Decimal) : Except PyException TakeProfitLevel :=
  if accepted : indexErrors index = [] ∧ sizePctErrors sizePct = [] then
    .ok {
      index := index
      price := price
      sizePct := sizePct
      indexInRange := indexInRange_of_no_errors accepted.1
      pctBounds := pctBounds_of_no_errors accepted.2 }
  else
    .error (.validationError "TakeProfitLevel"
      (indexErrors index ++ sizePctErrors sizePct))

/-- Fields in range are accepted. -/
theorem exists_create
    {index : Nat}
    {price : Decimal}
    {sizePct : Option Decimal}
    (indexInRange : 1 ≤ index ∧ index ≤ 5)
    (pctBounds : ∀ pct, sizePct = some pct → 0 < pct ∧ pct ≤ 100) :
    ∃ level, create index price sizePct = .ok level := by
  have noIndexErrors : indexErrors index = [] := by
    rw [indexErrors, if_neg (by omega), if_neg (by omega)]
  have noPctErrors : sizePctErrors sizePct = [] := by
    cases sizePct with
    | none => rfl
    | some pct =>
        obtain ⟨positive, bounded⟩ := pctBounds pct rfl
        have inside : ¬ (pct ≤ 0 ∨ 100 < pct) :=
          not_or.mpr ⟨not_le_of_gt positive, not_lt_of_ge bounded⟩
        exact if_neg inside
  rw [create, dif_pos ⟨noIndexErrors, noPctErrors⟩]
  exact ⟨_, rfl⟩

/-- A created level has the fields it was created with. -/
theorem create_ok
    {index : Nat}
    {price : Decimal}
    {sizePct : Option Decimal}
    {level : TakeProfitLevel}
    (created : create index price sizePct = .ok level) :
    level.index = index ∧ level.price = price ∧ level.sizePct = sizePct := by
  unfold create at created
  split at created
  · cases created
    exact ⟨rfl, rfl, rfl⟩
  · cases created

end TakeProfitLevel

/-- The fields of a normalized signal before validation. -/
structure SignalFields where
  signalId : UUID
  sourceId : String
  parserId : String
  parserVersion : String
  symbol : String
  side : Side
  entryType : EntryType
  entryPrice : Option Decimal
  stopLoss : Option Decimal
  takeProfits : List TakeProfitLevel
  leverage : Option Nat
  rawMessageId : Option String
  rawHash : Option PyString
  deriving Repr, DecidableEq

/-- A validated signal. -/
structure NormalizedSignal extends SignalFields where
  leverageInRange : ∀ value, leverage = some value → 1 ≤ value ∧ value ≤ 125
  tpIndicesUnique : (takeProfits.map TakeProfitLevel.index).Nodup
  deriving Repr, DecidableEq

namespace NormalizedSignal

/-- Range failures of the leverage field. -/
def leverageErrors (leverage : Option Nat) : List FieldError :=
  match leverage with
  | none => []
  | some value =>
      if value < 1 then
        [⟨"leverage", "Input should be greater than or equal to 1"⟩]
      else if 125 < value then
        [⟨"leverage", "Input should be less than or equal to 125"⟩]
      else
        []

theorem leverageInRange_of_no_errors
    {leverage : Option Nat}
    (accepted : leverageErrors leverage = [])
    (value : Nat)
    (present : leverage = some value) :
    1 ≤ value ∧ value ≤ 125 := by
  subst present
  simp only [leverageErrors] at accepted
  split at accepted
  · cases accepted
  · split at accepted
    · cases accepted
    · omega

/--
`NormalizedSignal(...)`: the field constraints first, then the model
validator on the take-profit indices.
-/
def create (fields : SignalFields) : Except PyException NormalizedSignal :=
  if leverageAccepted : leverageErrors fields.leverage = [] then
    if unique : (fields.takeProfits.map TakeProfitLevel.index).Nodup then
      .ok {
        toSignalFields := fields
        leverageInRange := leverageInRange_of_no_errors leverageAccepted
        tpIndicesUnique := unique }
    else
      .error (.validationError "NormalizedSignal"
        [⟨"", "Value error, take_profits indices must be unique"⟩])
  else
    .error (.validationError "NormalizedSignal"
      (leverageErrors fields.leverage))

/-- A leverage in range and unique take-profit indices are accepted. -/
theorem create_ne_error
    {fields : SignalFields}
    (leverageInRange :
      ∀ value, fields.leverage = some value → 1 ≤ value ∧ value ≤ 125)
    (unique : (fields.takeProfits.map TakeProfitLevel.index).Nodup)
    (raised : PyException) :
    create fields ≠ .error raised := by
  have noErrors : leverageErrors fields.leverage = [] := by
    cases present : fields.leverage with
    | none => rfl
    | some value =>
        have bounds := leverageInRange value present
        rw [leverageErrors, if_neg (by omega), if_neg (by omega)]
  rw [create, dif_pos noErrors, dif_pos unique]
  intro impossible
  cases impossible

/-- A created signal has the fields it was created with. -/
theorem create_ok
    {fields : SignalFields}
    {signal : NormalizedSignal}
    (created : create fields = .ok signal) :
    signal.toSignalFields = fields := by
  unfold create at created
  split at created
  · split at created
    · cases created
      rfl
    · cases created
  · cases created

/-- `NormalizedSignal(...)` with only its required fields. -/
def default
    (signalId : UUID)
    (sourceId parserId parserVersion symbol : String)
    (side : Side) : NormalizedSignal where
  signalId := signalId
  sourceId := sourceId
  parserId := parserId
  parserVersion := parserVersion
  symbol := symbol
  side := side
  entryType := .market
  entryPrice := none
  stopLoss := none
  takeProfits := []
  leverage := none
  rawMessageId := none
  rawHash := none
  leverageInRange := by simp
  tpIndicesUnique := by simp

end NormalizedSignal

/-- The immutable configuration a trade is opened under. -/
structure EffectiveConfigSnapshot where
  schemaVersion : PyString
  sourceId : String
  accountId : PyString
  profileId : String
  profileVersion : PyString
  conflictPolicy : ConflictPolicy
  maxLeverage : Nat
  maxNotionalUsdt : Option Decimal
  maxLossUsdt : Option Decimal
  slMode : SlMode
  lastTpMode : LastTpMode
  allowPartials : Bool
  configHash : String
  maxLeverageInRange : 1 ≤ maxLeverage ∧ maxLeverage ≤ 125
  deriving Repr, DecidableEq

/-- `EffectiveConfigSnapshot(...)` with only its required fields. -/
def EffectiveConfigSnapshot.default
    (sourceId : String)
    (accountId : PyString)
    (profileId : String)
    (profileVersion : PyString) : EffectiveConfigSnapshot where
  schemaVersion := "1.0.0"
  sourceId := sourceId
  accountId := accountId
  profileId := profileId
  profileVersion := profileVersion
  conflictPolicy := .rejectSecond
  maxLeverage := 20
  maxNotionalUsdt := none
  maxLossUsdt := some 10
  slMode := .breakEven
  lastTpMode := .trailing
  allowPartials := false
  configHash := ""
  maxLeverageInRange := by decide

/-- A queued order job; `Value` is the type of payload values. -/
structure OrderJob (Value : Type) where
  jobId : UUID
  tradeId : UUID
  jobType : String
  status : JobStatus
  payload : OrderedDict String Value
  clientOrderId : Option String
  attempt : Nat
  maxAttempts : Int
  leaseOwner : Option String
  leaseUntil : Option Instant
  createdAt : Instant
  updatedAt : Instant
  lastError : Option String

/-- Exchange trading rules of one symbol. -/
structure SymbolRules where
  symbol : String
  pricePrecision : Int
  quantityPrecision : Int
  minQty : Decimal
  minNotional : Decimal
  tickSize : Decimal
  stepSize : Decimal
  deriving Repr, DecidableEq

/-- `SymbolRules(symbol=...)` with every other field at its default. -/
def SymbolRules.default (symbol : String) : SymbolRules where
  symbol := symbol
  pricePrecision := 2
  quantityPrecision := 3
  minQty := 1 / 1000
  minNotional := 5
  tickSize := 1 / 100
  stepSize := 1 / 1000

end SafeSignalTrader
