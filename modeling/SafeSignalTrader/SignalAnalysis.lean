import SafeSignalTrader.ConflictResolver
import SafeSignalTrader.DecimalSizing
import SafeSignalTrader.EntryPlanner
import SafeSignalTrader.GenericStructuredParser
import SafeSignalTrader.IngestionPipeline
import SafeSignalTrader.ProtectionPlanner
import SafeSignalTrader.TradingProfiles

/-!
# Signal analysis

`analyze_signal` of `api/demo.py`: a text is read by a pipeline of its own and
its signal goes through the snapshot and the four engines.  The text hash,
`str` of an exception, the config digest, `str` of a decimal, the trade id
drawn by `uuid4` and the decimal arithmetic are parameters.  The result holds
the decisions themselves, where the endpoint writes them as JSON.
-/

namespace SafeSignalTrader

/-- A number of characters, in words. -/
def charactersText (count : Nat) : String :=
  toString count ++ (if count = 1 then " character" else " characters")

/-- Length failures of a text field. -/
def lengthErrors
    (field : String)
    (minLength maxLength : Nat)
    (value : String) : List FieldError :=
  if value.length < minLength then
    [⟨field, "String should have at least " ++ charactersText minLength⟩]
  else if maxLength < value.length then
    [⟨field, "String should have at most " ++ charactersText maxLength⟩]
  else
    []

theorem length_of_no_errors
    {field value : String}
    {minLength maxLength : Nat}
    (accepted : lengthErrors field minLength maxLength value = []) :
    minLength ≤ value.length ∧ value.length ≤ maxLength := by
  unfold lengthErrors at accepted
  split at accepted
  · cases accepted
  · split at accepted
    · cases accepted
    · omega

/-- `RawInboundMessage(source_id=..., message_id=..., text=...)`. -/
def RawInboundMessage.create
    (sourceId messageId : String)
    (text : PyString) :
    Except PyException RawInboundMessage :=
  if accepted :
      lengthErrors "source_id" 1 64 sourceId = [] ∧
        lengthErrors "message_id" 1 128 messageId = [] then
    .ok {
      sourceId := sourceId
      messageId := messageId
      text := text
      isEdit := false
      rawHash := none
      sourceIdLength := length_of_no_errors accepted.1
      messageIdLength := length_of_no_errors accepted.2 }
  else
    .error (.validationError "RawInboundMessage"
      (lengthErrors "source_id" 1 64 sourceId ++
        lengthErrors "message_id" 1 128 messageId))

/-- A message that is created has the text it is created with. -/
theorem RawInboundMessage.text_of_create
    {sourceId messageId : String}
    {text : PyString}
    {msg : RawInboundMessage}
    (created : RawInboundMessage.create sourceId messageId text = .ok msg) :
    msg.text = text := by
  unfold RawInboundMessage.create at created
  split at created
  · cases created
    rfl
  · cases created

/-- What an endpoint raises. -/
inductive ApiError where
  | httpException (statusCode : Nat) (detail : String)
  | raised (exception : PyException)
  deriving Repr, DecidableEq

/-- The body of an analysis request. -/
structure RiskRequest where
  text : String
  sourceId : String
  profileId : PyString
  markPrice : Option Decimal
  openPositions : Int
  textLength : 1 ≤ text.length ∧ text.length ≤ 8000
  deriving Repr, DecidableEq

/-- The module state of the endpoints that an analysis reads. -/
structure DemoState where
  sources : SourceRegistry
  parsers : ParserRegistry NormalizedSignal
  profiles : ProfileRegistry
  msgCounter : Nat

/-- The module state before the first request. -/
def DemoState.initial
    (computeHash : String → String)
    (signalId : UUID) : DemoState where
  sources := .buildExampleRegistry
  parsers := GenericStructuredParser.buildDefaultRegistry computeHash signalId
  profiles := .buildDefaultProfiles
  msgCounter := 0

/-- The decisions on a signal. -/
structure SignalDecisions where
  signal : NormalizedSignal
  snapshot : EffectiveConfigSnapshot
  risk : RiskDecision RiskReason
  entry : EntryPlan RiskReason
  protection : ProtectionPlan
  conflict : ConflictDecision
  deriving Repr, DecidableEq

/-- The answer of an analysis. -/
inductive AnalyzeResponse where
  | notParsed (outcome : IngestOutcome) (detail : Option PyString)
  | decided (decisions : SignalDecisions)
  deriving Repr, DecidableEq

/-- What an analysis answers once a signal was found. -/
def answerOf
    (decisions : Except PyException SignalDecisions) :
    Except ApiError AnalyzeResponse :=
  (decisions.map .decided).mapError .raised

/-- The signal id that a result takes from a signal. -/
def NormalizedSignal.readSignalId
    (signal : NormalizedSignal) : Except PyException (Option UUID) :=
  .ok (some signal.signalId)

section Analysis

variable (computeHash : String → String)
variable (str : PyException → String)
variable (digest : String → String)
variable (render : Decimal → String)
variable (tradeId : UUID)

/-- The message of a request, read by a new pipeline. -/
def readRequest
    (state : DemoState)
    (body : RiskRequest) : Except ApiError (PipelineOutput NormalizedSignal) :=
  match RawInboundMessage.create body.sourceId
      ("demo-an-" ++ toString (state.msgCounter + 1)) body.text with
  | .error exception => .error (.raised exception)
  | .ok msg =>
      match (SignalIngestionPipeline.process computeHash
          (fun raised => .ok (str raised)) NormalizedSignal.readSignalId
          (.create state.sources state.parsers) msg).2 with
      | .error exception => .error (.raised exception)
      | .ok output => .ok output

/-- Whether a request is read to a signal that passes a check. -/
def readsSignal
    (reading : Except ApiError (PipelineOutput NormalizedSignal))
    (check : PipelineOutput NormalizedSignal → NormalizedSignal → Bool) :
    Bool :=
  match reading with
  | .error _ => false
  | .ok output =>
      match output.signal with
      | none => false
      | some signal => check output signal

/-- The output and the signal that were checked. -/
theorem exists_of_readsSignal
    {reading : Except ApiError (PipelineOutput NormalizedSignal)}
    {check : PipelineOutput NormalizedSignal → NormalizedSignal → Bool}
    (checked : readsSignal reading check = true) :
    ∃ output signal,
      reading = .ok output ∧ output.signal = some signal ∧
        check output signal = true := by
  unfold readsSignal at checked
  split at checked
  · cases checked
  · next output =>
      split at checked
      · cases checked
      · next signal found =>
          exact ⟨output, signal, rfl, found, checked⟩

/-- `body.mark_price or signal.entry_price or Decimal("65000")`. -/
def referencePrice
    (body : RiskRequest)
    (signal : NormalizedSignal) : Decimal :=
  (orDecimal (orDecimal body.markPrice signal.entryPrice)
    (some 65000)).getD 65000

variable (arithmetic : DecimalArithmetic)

/-- The four engines on a signal under a snapshot. -/
def decisionsOn
    (body : RiskRequest)
    (signal : NormalizedSignal)
    (snapshot : EffectiveConfigSnapshot)
    (maxOpenPositions : Nat) : Except PyException SignalDecisions := do
  let mark := referencePrice body signal
  let risk ←
    (RiskEngine.evaluateWith arithmetic signal snapshot
      (some (.default signal.symbol)) 0 body.openPositions maxOpenPositions
      (some mark)).mapError .decimal
  let entry ←
    EntryPlanner.plan arithmetic tradeId signal snapshot risk 0 (some mark)
  return {
    signal := signal
    snapshot := snapshot
    risk := risk
    entry := entry
    protection := ProtectionPlanner.initialStop signal snapshot (some mark)
    conflict :=
      ConflictResolver.resolve signal snapshot.conflictPolicy [] }

/-- `analyze_signal`. -/
def analyzeSignal
    (state : DemoState)
    (body : RiskRequest) : DemoState × Except ApiError AnalyzeResponse :=
  let counted := { state with msgCounter := state.msgCounter + 1 }
  match readRequest computeHash str state body with
  | .error raised => (counted, .error raised)
  | .ok output =>
      match output.signal with
      | none =>
          (counted, .ok (.notParsed output.result.outcome
            output.result.detail))
      | some signal =>
          match state.sources.get body.sourceId,
              state.profiles.get body.profileId with
          | some source, some profile =>
              (counted,
                answerOf (decisionsOn tradeId arithmetic body signal
                  (buildSnapshot digest render source profile)
                  profile.maxOpenPositions))
          | _, _ =>
              (counted, .error
                (.httpException 400 "unknown source or profile"))

end Analysis

end SafeSignalTrader
