import SafeSignalTrader.IngestionHistory

/-!
# Failures of the parser stages

A pipeline run calls `can_parse`, `parse` and `validate` of a plug-in.  The
last two stand in a `try` block.  The first does not, and neither do the hash
of the text, the truth test of what `can_parse` returned, the text of a caught
exception and the signal id of what `validate` returned.
-/

namespace SafeSignalTrader

namespace SignalIngestionPipeline

section Stages

variable {Object : Type}

/-- The pre-check of a parser lets a message through. -/
def Accepts
    (parser : SignalParser Object)
    (msg : RawInboundMessage) : Prop :=
  parser.canParse msg.text = .ok (.ok true)

/-- One of the stages inside the `try` block raises. -/
inductive GuardedRaise
    (parser : SignalParser Object)
    (msg : RawInboundMessage)
    (raised : PyException) : Prop where
  | parse
      (raises :
        parser.parse msg.text msg.sourceId (some msg.messageId)
          msg.rawHash = .error raised)
  | validate
      {value : Object}
      (parses :
        parser.parse msg.text msg.sourceId (some msg.messageId)
          msg.rawHash = .ok (some value))
      (raises : parser.validate value = .error raised)

/-- One of the three parser stages raises on a message. -/
inductive StageRaised
    (parser : SignalParser Object)
    (msg : RawInboundMessage) : Prop where
  | canParse
      {raised : PyException}
      (raises : parser.canParse msg.text = .error raised)
  | guarded
      {raised : PyException}
      (accepts : Accepts parser msg)
      (raises : GuardedRaise parser msg raised)

variable (str : PyException → Except PyException PyString)
variable (signalId : Object → Except PyException (Option UUID))

/--
The behaviours of a plug-in that `process` does not guard: `can_parse` raises,
or what it returned raises when it is tested; the text of an exception that
`parse` or `validate` raised cannot be had; or `validate` returns `None`, or
an object without a signal id that a result takes.
-/
inductive Escapes
    (parser : SignalParser Object)
    (msg : RawInboundMessage) : Prop where
  | canParse
      {raised : PyException}
      (raises : parser.canParse msg.text = .error raised)
  | truthTest
      {raised : PyException}
      (raises : parser.canParse msg.text = .ok (.error raised))
  | failureText
      {raised strRaised : PyException}
      (accepts : Accepts parser msg)
      (fails : GuardedRaise parser msg raised)
      (raises : str raised = .error strRaised)
  | validatedNone
      {value : Object}
      (accepts : Accepts parser msg)
      (parses :
        parser.parse msg.text msg.sourceId (some msg.messageId)
          msg.rawHash = .ok (some value))
      (validates : parser.validate value = .ok none)
  | signalId
      {value validated : Object}
      {raised : PyException}
      (accepts : Accepts parser msg)
      (parses :
        parser.parse msg.text msg.sourceId (some msg.messageId)
          msg.rawHash = .ok (some value))
      (validates : parser.validate value = .ok (some validated))
      (raises : signalId validated = .error raised)

/-- An output that reports failed stages, and a signal only when parsed. -/
structure FailuresCaptured
    (stageRaised : Prop)
    (output : PipelineOutput Object) : Prop where
  failed :
    stageRaised →
      output.result.outcome = .parseFailed ∧ output.signal = none
  parsedIff :
    output.signal.isSome = true ↔ output.result.outcome = .parsed

variable {parser : SignalParser Object}
variable {msg : RawInboundMessage}

/-- What parse finds is handed to validate. -/
theorem extract_of_value
    {value : Object}
    (parses :
      parser.parse msg.text msg.sourceId (some msg.messageId)
        msg.rawHash = .ok (some value)) :
    extract parser msg = (parser.validate value).map some := by
  rw [extract, parses]

/-- The extraction ends in an object exactly if parse and validate do. -/
theorem extract_eq_some_iff {validated : Option Object} :
    extract parser msg = .ok (some validated) ↔
      ∃ value,
        parser.parse msg.text msg.sourceId (some msg.messageId)
            msg.rawHash = .ok (some value) ∧
          parser.validate value = .ok validated := by
  constructor
  · intro extracted
    unfold extract at extracted
    split at extracted
    · cases extracted
    · cases extracted
    · next value parses =>
        obtain ⟨other, validates, same⟩ := map_eq_ok_iff.mp extracted
        cases same
        exact ⟨value, parses, validates⟩
  · intro stages
    obtain ⟨value, parses, validates⟩ := stages
    rw [extract_of_value parses, validates]
    rfl

/-- The extraction raises exactly what a guarded stage raises. -/
theorem extract_eq_error_iff {raised : PyException} :
    extract parser msg = .error raised ↔ GuardedRaise parser msg raised := by
  constructor
  · intro fails
    unfold extract at fails
    split at fails
    · next raises =>
        cases fails
        exact .parse raises
    · cases fails
    · next value parses =>
        cases validates : parser.validate value with
        | error other =>
            rw [validates] at fails
            cases fails
            exact .validate parses validates
        | ok validated =>
            rw [validates] at fails
            cases fails
  · intro fails
    cases fails with
    | parse raises => rw [extract, raises]
    | validate parses raises =>
        rw [extract_of_value parses, raises]
        rfl

/-- After an accepting pre-check only a guarded stage can have raised. -/
theorem stageRaised_iff_of_accepts (accepts : Accepts parser msg) :
    StageRaised parser msg ↔
      ∃ raised, extract parser msg = .error raised := by
  simp only [extract_eq_error_iff]
  constructor
  · intro stage
    cases stage with
    | canParse raises =>
        rw [accepts] at raises
        cases raises
    | guarded _ raises => exact ⟨_, raises⟩
  · intro fails
    obtain ⟨raised, raises⟩ := fails
    exact .guarded accepts raises

variable {str signalId}

/-- The report of stages whose failures are guarded is captured. -/
theorem report_captured
    (accepts : Accepts parser msg)
    (guarded : ¬ Escapes str signalId parser msg) :
    ∃ output,
      report str signalId parser msg (extract parser msg) = .ok output ∧
        FailuresCaptured (StageRaised parser msg) output := by
  rw [stageRaised_iff_of_accepts accepts]
  cases extracted : extract parser msg with
  | error raised =>
      cases text : str raised with
      | error strRaised =>
          exact absurd
            (.failureText accepts (extract_eq_error_iff.mp extracted) text)
            guarded
      | ok message =>
          simp only [report, text]
          exact ⟨_, rfl, fun _ => ⟨rfl, rfl⟩, by simp [out]⟩
  | ok parsed =>
      have quiet :
          ¬ ∃ raised, (.ok parsed :
            Except PyException (Option (Option Object))) = .error raised := by
        intro fails
        obtain ⟨_, impossible⟩ := fails
        cases impossible
      cases parsed with
      | none =>
          exact ⟨_, rfl, fun stage => absurd stage quiet, by simp [out]⟩
      | some validated =>
          obtain ⟨value, parses, validates⟩ :=
            extract_eq_some_iff.mp extracted
          cases validated with
          | none =>
              exact absurd (.validatedNone accepts parses validates) guarded
          | some object =>
              cases read : signalId object with
              | error raised =>
                  exact absurd (.signalId accepts parses validates read)
                    guarded
              | ok id =>
                  simp only [report, read]
                  exact ⟨_, rfl, fun stage => absurd stage quiet, by simp⟩

/-- A parser whose failures are all guarded gives a captured output. -/
theorem runParser_captured
    (guarded : ¬ Escapes str signalId parser msg) :
    ∃ output, runParser str signalId parser msg = .ok output ∧
      FailuresCaptured (StageRaised parser msg) output := by
  unfold runParser
  cases checks : parser.canParse msg.text with
  | error raised =>
      exact absurd (.canParse checks) guarded
  | ok tested =>
      cases tested with
      | error raised =>
          exact absurd (.truthTest checks) guarded
      | ok answer =>
          cases answer with
          | true => exact report_captured checks guarded
          | false =>
              refine ⟨_, rfl, ?_, by simp [out]⟩
              intro stage
              cases stage with
              | canParse raises =>
                  rw [checks] at raises
                  cases raises
              | guarded accepts _ =>
                  rw [Accepts, checks] at accepts
                  cases accepts

/-- An unguarded failure leaves the parser stages as an exception. -/
theorem runParser_escapes (escapes : Escapes str signalId parser msg) :
    ∃ raised, runParser str signalId parser msg = .error raised := by
  cases escapes with
  | canParse raises =>
      rw [runParser, raises]
      exact ⟨_, rfl⟩
  | truthTest raises =>
      rw [runParser, raises]
      exact ⟨_, rfl⟩
  | failureText accepts fails raises =>
      simp only [runParser, show parser.canParse msg.text = _ from accepts,
        extract_eq_error_iff.mpr fails, report, raises]
      exact ⟨_, rfl⟩
  | validatedNone accepts parses validates =>
      simp only [runParser, show parser.canParse msg.text = _ from accepts,
        extract_eq_some_iff.mpr ⟨_, parses, validates⟩, report]
      exact ⟨_, rfl⟩
  | signalId accepts parses validates raises =>
      simp only [runParser, show parser.canParse msg.text = _ from accepts,
        extract_eq_some_iff.mpr ⟨_, parses, validates⟩, report, raises]
      exact ⟨_, rfl⟩

end Stages

section Admission

variable {Object : Type}
variable (computeHash : String → String)
variable (str : PyException → Except PyException PyString)
variable (signalId : Object → Except PyException (Option UUID))
variable (pipeline : SignalIngestionPipeline Object)
variable (msg : RawInboundMessage)

/-- The message with its effective hash, if that can be computed. -/
def hashedIfPossible : RawInboundMessage :=
  match msg.withHash computeHash with
  | .error _ => msg
  | .ok hashed => hashed

/-- A message from an enabled source that is not a duplicate. -/
structure Admits : Prop where
  opened : pipeline.Open msg
  fresh :
    pipeline.dedup.isDuplicate (hashedIfPossible computeHash msg) = false

/-- The parser that the source of a message names is registered. -/
def BoundTo (parser : SignalParser Object) : Prop :=
  ∃ source, pipeline.sources.get msg.sourceId = some source ∧
    pipeline.resolveParser source.parserId source.parserVersion =
      some parser

variable {msg}

/-- The bound parser runs on an admitted message. -/
theorem processHashed_of_boundTo
    {parser : SignalParser Object}
    (opened : pipeline.Open msg)
    (fresh : pipeline.dedup.isDuplicate msg = false)
    (bound : pipeline.BoundTo msg parser) :
    (pipeline.processHashed str signalId msg).2 =
      runParser str signalId parser msg := by
  obtain ⟨source, known, enabled⟩ := opened
  obtain ⟨other, knownToo, resolves⟩ := bound
  rw [known] at knownToo
  cases knownToo
  have markedResolves :
      ({ pipeline with dedup := pipeline.dedup.markSeen msg } :
        SignalIngestionPipeline Object).resolveParser source.parserId
          source.parserVersion = some parser := resolves
  simp only [processHashed, known, enabled, fresh, markedResolves,
    Bool.not_true, Bool.false_eq_true, ↓reduceIte]

/-- Without a bound parser an admitted message is skipped. -/
theorem processHashed_of_unbound
    (opened : pipeline.Open msg)
    (fresh : pipeline.dedup.isDuplicate msg = false)
    (unbound : ∀ parser, ¬ pipeline.BoundTo msg parser) :
    ∃ output, (pipeline.processHashed str signalId msg).2 = .ok output ∧
      output.result.outcome = .parseSkipped ∧ output.signal = none := by
  obtain ⟨source, known, enabled⟩ := opened
  have unresolved :
      ({ pipeline with dedup := pipeline.dedup.markSeen msg } :
        SignalIngestionPipeline Object).resolveParser source.parserId
          source.parserVersion = none := by
    apply Option.eq_none_iff_forall_ne_some.mpr
    intro parser resolves
    exact unbound parser ⟨source, known, resolves⟩
  simp only [processHashed, known, enabled, fresh, unresolved,
    Bool.not_true, Bool.false_eq_true, ↓reduceIte]
  exact ⟨_, rfl, rfl, rfl⟩

variable {computeHash str signalId pipeline}

/-- One parser at most is bound to a message. -/
theorem BoundTo.unique
    {first second : SignalParser Object}
    (firstBound : pipeline.BoundTo msg first)
    (secondBound : pipeline.BoundTo msg second) :
    first = second := by
  obtain ⟨source, known, resolves⟩ := firstBound
  obtain ⟨other, knownToo, resolvesToo⟩ := secondBound
  rw [known] at knownToo
  cases knownToo
  rw [resolves] at resolvesToo
  exact Option.some.inj resolvesToo

/--
A hashed message that is admitted is processed to a captured output exactly if
the bound parser fails in no way that is not guarded.
-/
theorem processHashed_captured_iff
    (opened : pipeline.Open msg)
    (fresh : pipeline.dedup.isDuplicate msg = false) :
    (∃ output, (pipeline.processHashed str signalId msg).2 = .ok output ∧
        FailuresCaptured
          (∃ parser, pipeline.BoundTo msg parser ∧ StageRaised parser msg)
          output) ↔
      ∀ parser, pipeline.BoundTo msg parser →
        ¬ Escapes str signalId parser msg := by
  constructor
  · intro returns parser bound escapes
    obtain ⟨output, returned, _⟩ := returns
    obtain ⟨raised, escaped⟩ := runParser_escapes escapes
    rw [processHashed_of_boundTo str signalId pipeline opened fresh bound,
      escaped] at returned
    cases returned
  · intro guarded
    by_cases isBound : ∃ parser, pipeline.BoundTo msg parser
    · obtain ⟨parser, bound⟩ := isBound
      obtain ⟨output, returned, captured⟩ :=
        runParser_captured (guarded parser bound)
      refine ⟨output, ?_, ?_, captured.parsedIff⟩
      · rw [processHashed_of_boundTo str signalId pipeline opened fresh
          bound]
        exact returned
      · intro stage
        obtain ⟨other, otherBound, stage⟩ := stage
        rw [otherBound.unique bound] at stage
        exact captured.failed stage
    · rw [not_exists] at isBound
      obtain ⟨output, returned, skipped, noSignal⟩ :=
        processHashed_of_unbound str signalId pipeline opened fresh isBound
      refine ⟨output, returned, ?_, by simp [skipped, noSignal]⟩
      intro stage
      obtain ⟨parser, bound, _⟩ := stage
      exact absurd bound (isBound parser)

variable (computeHash str signalId pipeline msg)

/--
An exception that escapes after the message was hashed loses the message: it
was marked, so its redelivery is a duplicate.
-/
theorem process_error_loses
    {raised : PyException}
    (hashable : msg.Hashable)
    (escaped :
      (pipeline.process computeHash str signalId msg).2 = .error raised) :
    outcome? ((pipeline.process computeHash str signalId msg).1.process
      computeHash str signalId msg).2 = some .duplicate := by
  obtain ⟨hash, isHash⟩ :=
    (RawInboundMessage.hashable_iff computeHash).mp hashable
  have isHashed :=
    RawInboundMessage.withHash_eq_ok_iff.mpr ⟨hash, isHash, rfl⟩
  have notRefused :
      ¬ Refused (pipeline.process computeHash str signalId msg).2 := by
    rw [escaped]
    exact not_refused_error raised
  have opened : pipeline.Open msg := by
    rw [pipeline.process_of_hashed str signalId isHashed] at notRefused
    rcases pipeline.processHashed_cases str signalId _ with
      ⟨_, unknown | disabled, _⟩ | ⟨_, _, duplicate, _⟩ | ⟨opened, _⟩
    · exact absurd (Or.inl unknown) notRefused
    · exact absurd (Or.inr (Or.inl disabled)) notRefused
    · exact absurd (Or.inr (Or.inr duplicate)) notRefused
    · exact opened
  rw [process_fst, if_neg notRefused, process_duplicate_iff str signalId _
    isHashed, marked, isHashed]
  refine ⟨opened, ?_⟩
  simp [mark, InMemoryDedupStore.isDuplicate, InMemoryDedupStore.markSeen]

end Admission

/-- A plug-in whose pre-check raises. -/
def raisingParser : SignalParser NormalizedSignal where
  parserId := "generic_structured"
  parserVersion := "1.0.0"
  canParse := fun _ => .error (.valueError "unsupported text")
  parse := fun _ _ _ _ => .ok none
  validate := fun value => .ok (some value)

end SignalIngestionPipeline

end SafeSignalTrader
