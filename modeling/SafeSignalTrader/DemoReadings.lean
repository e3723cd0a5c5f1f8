import SafeSignalTrader.DemoApi
import SafeSignalTrader.IngestionHistory
import SafeSignalTrader.ParserLayout

/-!
# Readings of the demo API

`parse_signal` and `analyze_signal` read every text with a pipeline of its own.
Their answers are those of a fresh start, whatever was asked before, but for the
message id that labels a signal; and they are the same for texts of the same
words, but for the hash.
-/

namespace SafeSignalTrader

open RunSemantics

open GenericStructuredParser (SameWords relabelled plugIn)

/-- A signal without the message id and the hash that label it. -/
def NormalizedSignal.unlabelled : NormalizedSignal → NormalizedSignal :=
  relabelled fun _ => none

/-- A pipeline output without its message id and the labels of its signal. -/
def PipelineOutput.unlabelled
    (output : PipelineOutput NormalizedSignal) :
    PipelineOutput NormalizedSignal where
  result := { output.result with messageId := "" }
  signal := output.signal.map NormalizedSignal.unlabelled

/-- The check of a signal does not look at its labels. -/
theorem GenericStructuredParser.validate_unlabelled
    (signal : NormalizedSignal) :
    (validate signal).map NormalizedSignal.unlabelled =
      validate signal.unlabelled := by
  unfold validate
  change Except.map _ (if signal.parserId ≠ parserId then _ else _) =
    if signal.parserId ≠ parserId then _ else _
  split
  · rfl
  · change Except.map _ (if signal.symbol = "" then _ else _) =
      if signal.symbol = "" then _ else _
    split
    · rfl
    · change Except.map _ (if (signal.leverage.any _) = true then _ else _) =
        if (signal.leverage.any _) = true then _ else _
      split <;> rfl

namespace SignalIngestionPipeline

variable {computeHash : String → String}
variable {str : PyException → Except PyException PyString}
variable {signalId : UUID}
variable {first second : RawInboundMessage}
variable {firstText secondText : String}

/-- What becomes of a parsed signal in the check. -/
def checkParsed (output : Except PyException (Option NormalizedSignal)) :
    Except PyException (Option (Option NormalizedSignal)) :=
  match output with
  | .error raised => .error raised
  | .ok none => .ok none
  | .ok (some signal) =>
      (GenericStructuredParser.validate signal).map fun validated =>
        some (some validated)

/-- The built-in parser extracts what it parses and checks. -/
theorem extract_plugIn (isText : first.text = firstText) :
    extract (plugIn computeHash signalId) first =
      checkParsed
        (GenericStructuredParser.parse computeHash signalId firstText
          first.sourceId (some first.messageId) first.rawHash) := by
  unfold extract
  rw [isText, GenericStructuredParser.plugIn_parse_ofString]
  cases GenericStructuredParser.parse computeHash signalId firstText
      first.sourceId (some first.messageId) first.rawHash with
  | error raised => rfl
  | ok parsed =>
      cases parsed with
      | none => rfl
      | some signal =>
          simp only [plugIn, checkParsed]
          cases GenericStructuredParser.validate signal <;> rfl

/-- The check does not look at the labels. -/
theorem checkParsed_unlabelled
    (output : Except PyException (Option NormalizedSignal)) :
    (checkParsed output).map
        (Option.map (Option.map NormalizedSignal.unlabelled)) =
      checkParsed
        (output.map (Option.map NormalizedSignal.unlabelled)) := by
  cases output with
  | error raised => rfl
  | ok parsed =>
      cases parsed with
      | none => rfl
      | some signal =>
          simp only [checkParsed, Except.map, Option.map_some,
            ← GenericStructuredParser.validate_unlabelled]
          cases GenericStructuredParser.validate signal <;> rfl

/-- Messages of the same words are extracted alike. -/
theorem extract_alike
    (isFirst : first.text = firstText)
    (isSecond : second.text = secondText)
    (sameSource : first.sourceId = second.sourceId)
    (sameWords : SameWords firstText.toList secondText.toList) :
    (extract (plugIn computeHash signalId) first).map
        (Option.map (Option.map NormalizedSignal.unlabelled)) =
      (extract (plugIn computeHash signalId) second).map
        (Option.map (Option.map NormalizedSignal.unlabelled)) := by
  have parsedAlike :=
    @SameWords.parse (fun _ => none) _ _ sameWords computeHash computeHash
      signalId first.sourceId (some first.messageId)
      (some second.messageId) rfl first.rawHash second.rawHash
  rw [extract_plugIn isFirst, extract_plugIn isSecond,
    checkParsed_unlabelled, checkParsed_unlabelled, ← sameSource]
  exact congrArg checkParsed parsedAlike

/-- The result of a message depends on its labels and those of its signal only
in its own labels. -/
theorem report_alike
    {parser : SignalParser NormalizedSignal}
    {one two : Except PyException (Option (Option NormalizedSignal))}
    (sameSource : first.sourceId = second.sourceId)
    (alike :
      one.map (Option.map (Option.map NormalizedSignal.unlabelled)) =
        two.map (Option.map (Option.map NormalizedSignal.unlabelled))) :
    (report str NormalizedSignal.readSignalId parser first one).map
        PipelineOutput.unlabelled =
      (report str NormalizedSignal.readSignalId parser second two).map
        PipelineOutput.unlabelled := by
  have forgets :
      ∀ msg extracted,
        (report str NormalizedSignal.readSignalId parser msg
            extracted).map PipelineOutput.unlabelled =
          (report str NormalizedSignal.readSignalId parser msg
            (extracted.map
              (Option.map (Option.map NormalizedSignal.unlabelled)))).map
                PipelineOutput.unlabelled := by
    intro msg extracted
    cases extracted with
    | error raised => rfl
    | ok value =>
        cases value with
        | none => rfl
        | some validated => cases validated <;> rfl
  rw [forgets first one, forgets second two, alike]
  cases two.map (Option.map (Option.map NormalizedSignal.unlabelled)) with
  | error raised =>
      simp only [report]
      cases str raised with
      | error strRaised => rfl
      | ok message =>
          simp only [Except.map, PipelineOutput.unlabelled, out, sameSource]
  | ok value =>
      cases value with
      | none =>
          simp only [report, Except.map, PipelineOutput.unlabelled, out,
            sameSource]
      | some validated =>
          cases validated with
          | none => rfl
          | some signal =>
              simp only [report, NormalizedSignal.readSignalId, Except.map,
                PipelineOutput.unlabelled, sameSource]

/-- The built-in parser runs alike on messages of the same words. -/
theorem runParser_alike
    (isFirst : first.text = firstText)
    (isSecond : second.text = secondText)
    (sameSource : first.sourceId = second.sourceId)
    (sameWords : SameWords firstText.toList secondText.toList) :
    (runParser str NormalizedSignal.readSignalId
        (plugIn computeHash signalId) first).map
          PipelineOutput.unlabelled =
      (runParser str NormalizedSignal.readSignalId
        (plugIn computeHash signalId) second).map
          PipelineOutput.unlabelled := by
  have accepts : ∀ {msg : RawInboundMessage} {text : String},
      msg.text = text →
        (plugIn computeHash signalId).canParse msg.text =
          .ok (.ok (GenericStructuredParser.canParse text)) := by
    rintro msg text isText
    simp only [plugIn, isText, PyString.replaced_ofString]
  unfold runParser
  rw [accepts isFirst, accepts isSecond, sameWords.canParse]
  cases GenericStructuredParser.canParse secondText with
  | false =>
      simp only [Except.map, PipelineOutput.unlabelled, out, sameSource]
  | true =>
      exact report_alike sameSource
        (extract_alike isFirst isSecond sameSource sameWords)

/-- A default pipeline binds the built-in parser or none. -/
theorem resolveParser_default
    {pipeline : SignalIngestionPipeline NormalizedSignal}
    (default : pipeline.parsers =
      GenericStructuredParser.buildDefaultRegistry computeHash signalId)
    {parser : SignalParser NormalizedSignal}
    {parserId version : PyString}
    (found : pipeline.resolveParser parserId version = some parser) :
    parser = plugIn computeHash signalId := by
  unfold resolveParser at found
  rw [default] at found
  split at found
  · next bound =>
      cases found
      exact GenericStructuredParser.get_buildDefaultRegistry bound
  · exact GenericStructuredParser.get_buildDefaultRegistry found

/-- Nothing is a duplicate of an empty history. -/
theorem isDuplicate_empty (msg : RawInboundMessage) :
    InMemoryDedupStore.empty.isDuplicate msg = false := by
  unfold InMemoryDedupStore.isDuplicate
  rw [if_neg (by simp [InMemoryDedupStore.empty])]
  cases InMemoryDedupStore.contentHash? msg with
  | none => rfl
  | some rawHash => simp [InMemoryDedupStore.empty]

section NewPipeline

variable (computeHash signalId) in
/-- A new pipeline on some sources with the default parsers. -/
def newPipeline
    (sources : SourceRegistry) : SignalIngestionPipeline NormalizedSignal :=
  create sources
    (GenericStructuredParser.buildDefaultRegistry computeHash signalId)

variable {sources : SourceRegistry}

/-- A new pipeline goes on with hashed messages of the same words alike. -/
theorem processHashed_alike
    (isFirst : first.text = firstText)
    (isSecond : second.text = secondText)
    (sameSource : first.sourceId = second.sourceId)
    (sameWords : SameWords firstText.toList secondText.toList) :
    ((newPipeline computeHash signalId sources).processHashed str
        NormalizedSignal.readSignalId first).2.map
          PipelineOutput.unlabelled =
      ((newPipeline computeHash signalId sources).processHashed str
        NormalizedSignal.readSignalId second).2.map
          PipelineOutput.unlabelled := by
  unfold processHashed newPipeline create
  dsimp only
  rw [isDuplicate_empty, isDuplicate_empty, sameSource]
  cases sources.get second.sourceId with
  | none =>
      simp only [Except.map, PipelineOutput.unlabelled, out, sameSource]
  | some source =>
      dsimp only
      cases source.enabled with
      | false =>
          simp only [Bool.not_false, ↓reduceIte, Except.map,
            PipelineOutput.unlabelled, out, sameSource]
      | true =>
          simp only [Bool.not_true, Bool.false_eq_true, ↓reduceIte]
          cases bound :
              (newPipeline computeHash signalId sources).resolveParser
                source.parserId source.parserVersion with
          | none =>
              have unbound : ∀ dedup,
                  resolveParser ⟨sources,
                    GenericStructuredParser.buildDefaultRegistry computeHash
                      signalId, dedup⟩ source.parserId
                        source.parserVersion = none :=
                fun _ => bound
              simp only [unbound, Except.map, PipelineOutput.unlabelled,
                out, sameSource]
          | some parser =>
              have boundTo : ∀ dedup,
                  resolveParser ⟨sources,
                    GenericStructuredParser.buildDefaultRegistry computeHash
                      signalId, dedup⟩ source.parserId
                        source.parserVersion = some parser :=
                fun _ => bound
              simp only [boundTo]
              rw [resolveParser_default rfl bound]
              exact runParser_alike isFirst isSecond sameSource sameWords

/-- A text without surrogates is hashed. -/
theorem exists_hashed (isText : first.text = firstText) :
    ∃ rawHash, first.withHash computeHash =
      .ok { first with rawHash := rawHash } := by
  have hashable : first.Hashable := by
    intro _ _
    rw [isText]
    exact PyString.encodable_ofString firstText
  obtain ⟨rawHash, isHash⟩ :=
    (RawInboundMessage.hashable_iff computeHash).mp hashable
  exact ⟨rawHash,
    RawInboundMessage.withHash_eq_ok_iff.mpr ⟨rawHash, isHash, rfl⟩⟩

/-- A new pipeline processes messages of the same words alike. -/
theorem process_alike
    (isFirst : first.text = firstText)
    (isSecond : second.text = secondText)
    (sameSource : first.sourceId = second.sourceId)
    (sameWords : SameWords firstText.toList secondText.toList) :
    ((newPipeline computeHash signalId sources).process computeHash str
        NormalizedSignal.readSignalId first).2.map
          PipelineOutput.unlabelled =
      ((newPipeline computeHash signalId sources).process computeHash str
        NormalizedSignal.readSignalId second).2.map
          PipelineOutput.unlabelled := by
  obtain ⟨firstHash, firstHashed⟩ := @exists_hashed computeHash _ _ isFirst
  obtain ⟨secondHash, secondHashed⟩ :=
    @exists_hashed computeHash _ _ isSecond
  rw [process_of_hashed str _ _ firstHashed,
    process_of_hashed str _ _ secondHashed]
  apply processHashed_alike
  · exact isFirst
  · exact isSecond
  · exact sameSource
  · exact sameWords

end NewPipeline

end SignalIngestionPipeline

/-- A message id short enough for a message raises no error. -/
theorem lengthErrors_messageId
    {count : Nat}
    (short : count < 10 ^ 100)
    {label : String}
    (shortLabel : label.length ≤ 28) :
    lengthErrors "message_id" 1 128 (label ++ toString count) = [] := by
  have digits : (toString count).length ≤ 100 := by
    have bounded :=
      (Nat.length_toDigits_le_iff (by decide) (by decide)).mpr short
    simpa [Nat.repr_eq_ofList_toDigits] using bounded
  have nonempty : 0 < (toString count).length := by
    simp [Nat.repr_eq_ofList_toDigits, Nat.length_toDigits_pos]
  unfold lengthErrors
  rw [String.length_append, if_neg (by omega), if_neg (by omega)]

namespace DemoApp

variable {computeHash : String → String}
variable {str : PyException → String}
variable {digest : String → String}
variable {render : Decimal → String}
variable {repr : String → String}
variable {sources : SourceRegistry}
variable {signalId : UUID}

variable (computeHash str sources signalId) in
/-- A text read under a message id by a new pipeline. -/
def readText
    (sourceId messageId text : String) :
    Except PyException (PipelineOutput NormalizedSignal) :=
  (RawInboundMessage.create sourceId messageId text).bind fun msg =>
    ((SignalIngestionPipeline.newPipeline computeHash signalId
      sources).process computeHash (fun raised => .ok (str raised))
        NormalizedSignal.readSignalId msg).2

/-- Texts of the same words are read alike under any two short ids. -/
theorem readText_alike
    {sourceId firstId secondId first second : String}
    (firstShort : lengthErrors "message_id" 1 128 firstId = [])
    (secondShort : lengthErrors "message_id" 1 128 secondId = [])
    (sameWords : SameWords first.toList second.toList) :
    (readText computeHash str sources signalId sourceId firstId first).map
        PipelineOutput.unlabelled =
      (readText computeHash str sources signalId sourceId secondId
        second).map PipelineOutput.unlabelled := by
  unfold readText RawInboundMessage.create
  by_cases accepted : lengthErrors "source_id" 1 64 sourceId = []
  · rw [dif_pos ⟨accepted, firstShort⟩, dif_pos ⟨accepted, secondShort⟩]
    exact SignalIngestionPipeline.process_alike rfl rfl rfl sameWords
  · rw [dif_neg fun both => accepted both.1,
      dif_neg fun both => accepted both.1, firstShort, secondShort]

/-- What a pipeline output answers to a parse request. -/
def parseAnswer (output : PipelineOutput NormalizedSignal) : ParseResponse where
  outcome := output.result.outcome
  detail := output.result.detail
  parserId := output.result.parserId
  parserVersion := output.result.parserVersion
  signal := output.signal

/-- A parse request answers what is read under its message id. -/
theorem parseSignal_snd
    (app : DemoApp)
    (body : ParseRequest)
    (signalId : UUID) :
    (app.parseSignal computeHash str body signalId).2 =
      ((readText computeHash str app.sources signalId body.sourceId
        ("demo-" ++ toString (app.msgCounter + 1)) body.text).mapError
          ApiError.raised).map fun output =>
            .parsed (parseAnswer output) := by
  unfold parseSignal readText SignalIngestionPipeline.newPipeline
  dsimp only
  cases RawInboundMessage.create body.sourceId
      ("demo-" ++ toString (app.msgCounter + 1)) body.text with
  | error raised => rfl
  | ok msg =>
      simp only [Except.bind, analysisState]
      cases (SignalIngestionPipeline.process computeHash
        (fun raised => .ok (str raised)) NormalizedSignal.readSignalId
          (.create app.sources
            (GenericStructuredParser.buildDefaultRegistry computeHash
              signalId)) msg).2 with
      | error raised => rfl
      | ok output => rfl

variable (digest render) in
/-- What an analysis makes of the answer to the parse request. -/
def analysisOf
    (app : DemoApp)
    (body : RiskRequest)
    (tradeId : UUID)
    (reading : ParseResponse) : Except ApiError AnalyzeResponse :=
  match reading.signal with
  | none => .ok (.notParsed reading.outcome reading.detail)
  | some signal =>
      match app.sources.get body.sourceId,
          app.profiles.get body.profileId with
      | some source, some profile =>
          answerOf (decisionsOn tradeId contextArithmetic body signal
            (buildSnapshot digest render source profile)
            profile.maxOpenPositions)
      | _, _ => .error (.httpException 400 "unknown source or profile")

/-- An analysis decides on what is read under its message id. -/
theorem analyze_snd
    (app : DemoApp)
    (body : RiskRequest)
    (signalId tradeId : UUID) :
    (app.analyze computeHash str digest render body signalId tradeId).2 =
      (((readText computeHash str app.sources signalId body.sourceId
        ("demo-an-" ++ toString (app.msgCounter + 1)) body.text).mapError
          ApiError.raised).bind fun output =>
            app.analysisOf digest render body tradeId
              (parseAnswer output)).map .analyzed := by
  unfold analyze analyzeSignal readRequest readText
    SignalIngestionPipeline.newPipeline
  dsimp only
  simp only [analysisState]
  cases RawInboundMessage.create body.sourceId
      ("demo-an-" ++ toString (app.msgCounter + 1)) body.text with
  | error raised => rfl
  | ok msg =>
      simp only [Except.bind]
      cases (SignalIngestionPipeline.process computeHash
        (fun raised => .ok (str raised)) NormalizedSignal.readSignalId
          (.create app.sources
            (GenericStructuredParser.buildDefaultRegistry computeHash
              signalId)) msg).2 with
      | error raised => rfl
      | ok output =>
          simp only [Except.mapError, analysisOf, parseAnswer]
          cases output.signal with
          | none => rfl
          | some signal =>
              cases app.sources.get body.sourceId with
              | none => rfl
              | some source =>
                  cases app.profiles.get body.profileId with
                  | none => rfl
                  | some profile => rfl

/-- A new pipeline reports no duplicate. -/
theorem readText_not_duplicate
    {sourceId messageId text : String}
    {output : PipelineOutput NormalizedSignal}
    (read : readText computeHash str sources signalId sourceId messageId
      text = .ok output) :
    output.result.outcome ≠ .duplicate := by
  intro duplicate
  unfold readText at read
  cases created : RawInboundMessage.create sourceId messageId text with
  | error raised =>
      rw [created] at read
      cases read
  | ok msg =>
      rw [created] at read
      have isText : msg.text = text := RawInboundMessage.text_of_create created
      obtain ⟨rawHash, isHashed⟩ :=
        @SignalIngestionPipeline.exists_hashed computeHash _ _ isText
      have reported :
          outcome? ((SignalIngestionPipeline.newPipeline computeHash signalId
            sources).process computeHash (fun raised => .ok (str raised))
              NormalizedSignal.readSignalId msg).2 = some .duplicate := by
        rw [show (SignalIngestionPipeline.process _ _ _ _ msg).2 =
          .ok output from read]
        exact congrArg some duplicate
      have seen :=
        ((SignalIngestionPipeline.process_duplicate_iff _ _ _
          isHashed).mp reported).2
      have fresh :=
        SignalIngestionPipeline.isDuplicate_empty
          { msg with rawHash := rawHash }
      exact Bool.false_ne_true (fresh.symm.trans seen)

/-- What a request leaves of the registries and the counter. -/
structure Fixed (before after : DemoApp) : Prop where
  sources : after.sources = before.sources
  profiles : after.profiles = before.profiles
  counted : after.msgCounter ≤ before.msgCounter + 1

/-- An endpoint on a job id leaves the registries and the counter. -/
theorem onJob_fixed
    (app : DemoApp)
    (jobId : String)
    (act : UUID → InMemoryJobQueue Bool × Bool) :
    Fixed app (app.onJob repr jobId act).1 := by
  unfold onJob
  cases UUID.ofText repr jobId with
  | error raised => exact ⟨rfl, rfl, Nat.le_succ _⟩
  | ok uuid => exact ⟨rfl, rfl, Nat.le_succ _⟩

/-- No request changes the registries, and none counts more than one. -/
theorem step_fixed (app : DemoApp) (request : DemoRequest) :
    Fixed app (step computeHash str digest render repr app request).1 := by
  cases request with
  | parse body signalId =>
      simp only [step, parseSignal]
      split
      · exact ⟨rfl, rfl, Nat.le_refl _⟩
      · split <;> exact ⟨rfl, rfl, Nat.le_refl _⟩
  | analyze body signalId tradeId =>
      refine ⟨rfl, rfl, ?_⟩
      change (analyzeSignal computeHash str digest render tradeId
        contextArithmetic (app.analysisState computeHash signalId) body).1.msgCounter ≤ _
      unfold analyzeSignal
      dsimp only
      split
      · exact Nat.le_refl _
      · split
        · exact Nat.le_refl _
        · split <;> exact Nat.le_refl _
  | complete jobId owner now => exact onJob_fixed _ _ _
  | fail jobId owner error now => exact onJob_fixed _ _ _
  | _ => exact ⟨rfl, rfl, Nat.le_succ _⟩

/-- The registries after a run, and a bound on the counter. -/
theorem final_fixed
    (app : DemoApp)
    (requests : List DemoRequest) :
    ((demoMachine computeHash str digest render repr).final app
        requests).sources = app.sources ∧
      ((demoMachine computeHash str digest render repr).final app
        requests).profiles = app.profiles ∧
      ((demoMachine computeHash str digest render repr).final app
        requests).msgCounter ≤ app.msgCounter + requests.length := by
  induction requests generalizing app with
  | nil => exact ⟨rfl, rfl, Nat.le_refl _⟩
  | cons request rest inductionHypothesis =>
      have first : Fixed app
          (step computeHash str digest render repr app request).1 :=
        step_fixed app request
      obtain ⟨sameSources, sameProfiles, counted⟩ :=
        inductionHypothesis
          (step computeHash str digest render repr app request).1
      refine ⟨sameSources.trans first.sources,
        sameProfiles.trans first.profiles, ?_⟩
      have firstCounted := first.counted
      rw [List.length_cons]
      exact Nat.le_trans counted (by omega)

end DemoApp

/-- An analysis without the labels of its signal. -/
def AnalyzeResponse.unlabelled : AnalyzeResponse → AnalyzeResponse
  | .decided decisions =>
      .decided { decisions with signal := decisions.signal.unlabelled }
  | response => response

/-- The answer to a parse request without the labels of its signal. -/
def ParseResponse.unlabelled (response : ParseResponse) : ParseResponse :=
  { response with
    signal := response.signal.map NormalizedSignal.unlabelled }

/-- The parse request for the text of an analysis. -/
def RiskRequest.parseRequest (body : RiskRequest) : ParseRequest :=
  ⟨body.text, body.sourceId, body.textLength⟩

/-- Two analyses that differ at most in the spelling of their texts. -/
structure RiskRequest.SameButSpelling (first second : RiskRequest) : Prop where
  words : SameWords first.text.toList second.text.toList
  sourceId : first.sourceId = second.sourceId
  profileId : first.profileId = second.profileId
  markPrice : first.markPrice = second.markPrice
  openPositions : first.openPositions = second.openPositions

namespace DemoApp

variable {computeHash : String → String}
variable {str : PyException → String}
variable {digest : String → String}
variable {render : Decimal → String}
variable {repr : String → String}
variable {signalId : UUID}

/-- The decisions do not depend on the labels of a signal. -/
theorem decisionsOn_unlabelled
    (tradeId : UUID)
    (body : RiskRequest)
    (signal : NormalizedSignal)
    (snapshot : EffectiveConfigSnapshot)
    (maxOpenPositions : Nat) :
    (answerOf (decisionsOn tradeId contextArithmetic body signal snapshot
        maxOpenPositions)).map AnalyzeResponse.unlabelled =
      answerOf (decisionsOn tradeId contextArithmetic body signal.unlabelled
        snapshot maxOpenPositions) := by
  unfold decisionsOn
  dsimp only
  cases risk : RiskEngine.evaluateWith contextArithmetic signal snapshot
      (some (.default signal.symbol)) 0 body.openPositions maxOpenPositions
      (some (referencePrice body signal)) with
  | error raised =>
      have unlabelledRisk :
          RiskEngine.evaluateWith contextArithmetic signal.unlabelled snapshot
            (some (.default signal.unlabelled.symbol)) 0 body.openPositions
            maxOpenPositions
            (some (referencePrice body signal.unlabelled)) =
              .error raised :=
        risk
      rw [unlabelledRisk]
      rfl
  | ok decision =>
      have unlabelledRisk :
          RiskEngine.evaluateWith contextArithmetic signal.unlabelled snapshot
            (some (.default signal.unlabelled.symbol)) 0 body.openPositions
            maxOpenPositions
            (some (referencePrice body signal.unlabelled)) =
              .ok decision :=
        risk
      rw [unlabelledRisk]
      change Except.map _ (answerOf (Except.bind
        (EntryPlanner.plan contextArithmetic tradeId signal snapshot decision
          0 (some (referencePrice body signal))) _)) =
        answerOf (Except.bind
          (EntryPlanner.plan contextArithmetic tradeId signal snapshot
            decision 0 (some (referencePrice body signal))) _)
      cases EntryPlanner.plan contextArithmetic tradeId signal snapshot
          decision 0 (some (referencePrice body signal)) with
      | error raised => rfl
      | ok entry => rfl

/-- Alike readings are analysed alike. -/
theorem analysisOf_alike
    {firstApp secondApp : DemoApp}
    {first second : RiskRequest}
    {firstReading secondReading : ParseResponse}
    (sameSources : firstApp.sources = secondApp.sources)
    (sameProfiles : firstApp.profiles = secondApp.profiles)
    (same : first.SameButSpelling second)
    (alike : firstReading.unlabelled = secondReading.unlabelled)
    (tradeId : UUID) :
    (firstApp.analysisOf digest render first tradeId firstReading).map
        AnalyzeResponse.unlabelled =
      (secondApp.analysisOf digest render second tradeId
        secondReading).map AnalyzeResponse.unlabelled := by
  have fields := alike
  unfold ParseResponse.unlabelled at fields
  obtain ⟨sameOutcome, sameDetail, -, -, sameSignal⟩ :=
    ParseResponse.mk.inj fields
  unfold analysisOf
  rw [sameSources, sameProfiles, same.sourceId, same.profileId, sameOutcome,
    sameDetail]
  cases firstFound : firstReading.signal with
  | none =>
      rw [firstFound, Option.map_none, eq_comm,
        Option.map_eq_none_iff] at sameSignal
      rw [sameSignal]
  | some signal =>
      rw [firstFound, Option.map_some, eq_comm,
        Option.map_eq_some_iff] at sameSignal
      obtain ⟨other, secondFound, sameSignal⟩ := sameSignal
      rw [secondFound]
      dsimp only
      cases secondApp.sources.get second.sourceId with
      | none => rfl
      | some source =>
          cases secondApp.profiles.get second.profileId with
          | none => rfl
          | some profile =>
              simp only [decisionsOn_unlabelled, sameSignal]
              unfold decisionsOn referencePrice
              rw [same.markPrice, same.openPositions]

/-- Alike readings are analysed alike, whether or not they raise. -/
theorem bind_analysisOf_alike
    {firstApp secondApp : DemoApp}
    {first second : RiskRequest}
    {firstReading secondReading : Except ApiError ParseResponse}
    (sameSources : firstApp.sources = secondApp.sources)
    (sameProfiles : firstApp.profiles = secondApp.profiles)
    (same : first.SameButSpelling second)
    (alike :
      firstReading.map ParseResponse.unlabelled =
        secondReading.map ParseResponse.unlabelled)
    (tradeId : UUID) :
    (firstReading.bind
        (firstApp.analysisOf digest render first tradeId)).map
          AnalyzeResponse.unlabelled =
      (secondReading.bind
        (secondApp.analysisOf digest render second tradeId)).map
          AnalyzeResponse.unlabelled := by
  cases firstReading with
  | error raised =>
      cases secondReading with
      | error other =>
          cases alike
          rfl
      | ok response => cases alike
  | ok response =>
      cases secondReading with
      | error other => cases alike
      | ok other =>
          exact analysisOf_alike sameSources sameProfiles same
            (Except.ok.inj alike) tradeId

variable (computeHash str) in
/-- A text read under the next message id of a label. -/
def reading
    (app : DemoApp)
    (label sourceId text : String)
    (signalId : UUID) : Except ApiError ParseResponse :=
  ((readText computeHash str app.sources signalId sourceId
    (label ++ toString (app.msgCounter + 1)) text).mapError
      ApiError.raised).map parseAnswer

/-- A parse request answers its reading. -/
theorem parse_answers
    (app : DemoApp)
    (body : ParseRequest)
    (signalId : UUID) :
    (step computeHash str digest render repr app
        (.parse body signalId)).2 =
      (app.reading computeHash str "demo-" body.sourceId body.text
        signalId).map .parsed := by
  change (app.parseSignal computeHash str body signalId).2 = _
  rw [parseSignal_snd, reading]
  cases readText computeHash str app.sources signalId body.sourceId
    ("demo-" ++ toString (app.msgCounter + 1)) body.text <;> rfl

/-- An analysis decides on its reading. -/
theorem analyze_answers
    (app : DemoApp)
    (body : RiskRequest)
    (signalId tradeId : UUID) :
    (step computeHash str digest render repr app
        (.analyze body signalId tradeId)).2 =
      ((app.reading computeHash str "demo-an-" body.sourceId body.text
        signalId).bind
          (app.analysisOf digest render body tradeId)).map .analyzed := by
  change (app.analyze computeHash str digest render body signalId
    tradeId).2 = _
  rw [analyze_snd, reading]
  cases readText computeHash str app.sources signalId body.sourceId
    ("demo-an-" ++ toString (app.msgCounter + 1)) body.text <;> rfl

/-- Readings of the same words are alike, whatever their labels. -/
theorem reading_alike
    {firstApp secondApp : DemoApp}
    {firstLabel secondLabel : String}
    (sameSources : firstApp.sources = secondApp.sources)
    (firstFew : firstApp.msgCounter + 1 < 10 ^ 100)
    (secondFew : secondApp.msgCounter + 1 < 10 ^ 100)
    (firstShort : firstLabel.length ≤ 28)
    (secondShort : secondLabel.length ≤ 28)
    {first second : String}
    (sameWords : SameWords first.toList second.toList)
    (sourceId : String)
    (signalId : UUID) :
    (firstApp.reading computeHash str firstLabel sourceId first
        signalId).map ParseResponse.unlabelled =
      (secondApp.reading computeHash str secondLabel sourceId second
        signalId).map ParseResponse.unlabelled := by
  have alike :=
    @readText_alike computeHash str firstApp.sources signalId sourceId _ _
      first second (lengthErrors_messageId firstFew firstShort)
      (lengthErrors_messageId secondFew secondShort) sameWords
  have shown : ∀ read : Except PyException (PipelineOutput NormalizedSignal),
      ((read.mapError ApiError.raised).map parseAnswer).map
          ParseResponse.unlabelled =
        ((read.map PipelineOutput.unlabelled).mapError
          ApiError.raised).map parseAnswer := by
    intro read
    cases read <;> rfl
  rw [reading, reading, shown, shown, ← sameSources, alike]

/-- No reading is a duplicate. -/
theorem reading_not_duplicate
    {app : DemoApp}
    {label sourceId text : String}
    {response : ParseResponse}
    (read :
      app.reading computeHash str label sourceId text signalId =
        .ok response) :
    response.outcome ≠ .duplicate := by
  unfold reading at read
  cases output :
      readText computeHash str app.sources signalId sourceId
        (label ++ toString (app.msgCounter + 1)) text with
  | error raised =>
      rw [output] at read
      cases read
  | ok output' =>
      rw [output] at read
      cases read
      exact readText_not_duplicate output

/--
The readings of the demo API are those of a fresh start.  After any requests at
all a text is parsed as it is after any others, and so is every other spelling
of its words, but for the labels of the signal; no text is ever a duplicate; and
an analysis answers what follows from the parse answer by the decisions alone.
-/
theorem demoReadings
    (computeHash : String → String)
    (str : PyException → String)
    (digest : String → String)
    (render : Decimal → String)
    (repr : String → String)
    (earlier others : List DemoRequest)
    (earlierFew : earlier.length + 1 < 10 ^ 100)
    (othersFew : others.length + 1 < 10 ^ 100)
    (signalId tradeId : UUID)
    (body respelled : RiskRequest)
    (same : body.SameButSpelling respelled) :
    ∃ reading again : Except ApiError ParseResponse,
      (step computeHash str digest render repr
          (after computeHash str digest render repr earlier)
          (.parse body.parseRequest signalId)).2 = reading.map .parsed ∧
        (step computeHash str digest render repr
          (after computeHash str digest render repr others)
          (.parse respelled.parseRequest signalId)).2 =
            again.map .parsed ∧
        reading.map ParseResponse.unlabelled =
          again.map ParseResponse.unlabelled ∧
        (∀ response, reading = .ok response →
          response.outcome ≠ .duplicate) ∧
        ∃ analysis : Except ApiError AnalyzeResponse,
          (step computeHash str digest render repr
            (after computeHash str digest render repr others)
            (.analyze respelled signalId tradeId)).2 =
              analysis.map .analyzed ∧
            analysis.map AnalyzeResponse.unlabelled =
              (reading.bind
                (DemoApp.initial.analysisOf digest render body
                  tradeId)).map AnalyzeResponse.unlabelled := by
  obtain ⟨sources, profiles, counted⟩ :=
    @final_fixed computeHash str digest render repr .initial earlier
  obtain ⟨otherSources, otherProfiles, otherCounted⟩ :=
    @final_fixed computeHash str digest render repr .initial others
  have few := Nat.lt_of_le_of_lt (Nat.succ_le_succ counted)
    (by simpa [initial] using earlierFew)
  have otherFew := Nat.lt_of_le_of_lt (Nat.succ_le_succ otherCounted)
    (by simpa [initial] using othersFew)
  have sameSources := sources.trans otherSources.symm
  refine ⟨_, _, parse_answers _ _ _, parse_answers _ _ _, ?_, ?_, _,
    analyze_answers _ _ _ _, ?_⟩
  · change _ = Except.map _ (reading computeHash str _ _
      respelled.sourceId _ _)
    rw [← same.sourceId]
    exact reading_alike sameSources few otherFew (by decide) (by decide)
      same.words body.sourceId signalId
  · intro response read
    exact reading_not_duplicate read
  · symm
    apply bind_analysisOf_alike otherSources.symm otherProfiles.symm same
    rw [← same.sourceId]
    exact reading_alike sameSources few otherFew (by decide) (by decide)
      same.words body.sourceId signalId

/-- A request for the analysis of a text. -/
def spelledRequest
    (text : String)
    (fits : 1 ≤ text.length ∧ text.length ≤ 8000) : RiskRequest where
  text := text
  sourceId := "src_demo_alpha"
  profileId := "profile_default"
  markPrice := none
  openPositions := 0
  textLength := fits

/-- A text asked twice, the second time in small letters, is no duplicate. -/
theorem demoReadings_again :
    ∃ reading again : Except ApiError ParseResponse,
      (step (fun text => text) (fun _ => "") (fun text => text)
          PythonText.fractionText (fun text => text) .initial
          (.parse (spelledRequest "SIGNAL BUY SOLUSDT\nLEV 3"
            (by decide)).parseRequest 1)).2 = reading.map .parsed ∧
        (step (fun text => text) (fun _ => "") (fun text => text)
          PythonText.fractionText (fun text => text)
          (after (fun text => text) (fun _ => "") (fun text => text)
            PythonText.fractionText (fun text => text)
            [.parse (spelledRequest "SIGNAL BUY SOLUSDT\nLEV 3"
              (by decide)).parseRequest 1])
          (.parse (spelledRequest "\n signal  buy\tsolusdt \nlev 3"
            (by decide)).parseRequest 1)).2 = again.map .parsed ∧
        reading.map ParseResponse.unlabelled =
          again.map ParseResponse.unlabelled := by
  obtain ⟨reading, again, parsed, parsedAgain, alike, -, -⟩ :=
    demoReadings (fun text => text) (fun _ => "") (fun text => text)
      PythonText.fractionText (fun text => text) []
      [.parse (spelledRequest "SIGNAL BUY SOLUSDT\nLEV 3"
        (by decide)).parseRequest 1]
      (by decide) (by decide) 1 2
      (spelledRequest "SIGNAL BUY SOLUSDT\nLEV 3" (by decide))
      (spelledRequest "\n signal  buy\tsolusdt \nlev 3" (by decide))
      ⟨by unfold SameWords; decide +kernel, rfl, rfl, rfl, rfl⟩
  exact ⟨reading, again, parsed, parsedAgain, alike⟩

end DemoApp

end SafeSignalTrader
