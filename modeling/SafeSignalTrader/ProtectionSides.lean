import SafeSignalTrader.IngestionFailures
import SafeSignalTrader.ParserFields
import SafeSignalTrader.ProtectionTightening
import SafeSignalTrader.SignalAnalysis

/-!
# The side of a reported stop

A stop protects a position if it lies on the loss side of the entry.  The
parser, the signal model and the protection planner pass on the price of the
stop line as it is, and none of them compares it with the entry.  A stop
beyond the entry is reported as protection and never worsens, so no later move
brings it back.
-/

namespace SafeSignalTrader

open BacktrackingRegex PythonText

/-- A stop that closes a position of a side at a loss. -/
def OnLossSide (side : Side) (stop entry : Decimal) : Prop :=
  match side with
  | .long => 0 < stop ∧ stop < entry
  | .short => entry < stop

instance decidableOnLossSide (stop entry : Decimal) :
    ∀ side, Decidable (OnLossSide side stop entry)
  | .long => inferInstanceAs (Decidable (0 < stop ∧ stop < entry))
  | .short => inferInstanceAs (Decidable (entry < stop))

/--
A stop reported as protection is on the loss side of the entry, and break-even
management moves it to the entry later.
-/
def ReallyProtects
    (signal : NormalizedSignal)
    (snapshot : EffectiveConfigSnapshot)
    (entry : Decimal) : Prop :=
  (ProtectionPlanner.initialStop signal snapshot (some entry)).isProtected =
      true →
    ∀ stop,
      (ProtectionPlanner.initialStop signal snapshot
          (some entry)).initialStop = some stop →
        OnLossSide signal.side stop entry ∧
          ∀ hitTp later previousTpPrice,
            later.slMode = .breakEven →
              (ProtectionPlanner.afterTp signal.side stop entry hitTp later
                previousTpPrice).saferStop = some entry

/-- The entry is safer than a stop on its loss side. -/
theorem OnLossSide.isSafer
    {side : Side}
    {stop entry : Decimal}
    (onLossSide : OnLossSide side stop entry) :
    ProtectionPlanner.isSafer side stop entry = true := by
  cases side with
  | long => exact decide_eq_true (le_of_lt onLossSide.2)
  | short => exact decide_eq_true (le_of_lt onLossSide)

/-- Break-even moves a stop to the entry exactly if the entry is safer. -/
theorem afterTp_breakEven_iff
    {side : Side}
    {stop entry : Decimal}
    {hitTp : TakeProfitLevel}
    {snapshot : EffectiveConfigSnapshot}
    {previousTpPrice : Option Decimal}
    (breakEven : snapshot.slMode = .breakEven) :
    (ProtectionPlanner.afterTp side stop entry hitTp snapshot
        previousTpPrice).saferStop = some entry ↔
      ProtectionPlanner.isSafer side stop entry = true := by
  rw [ProtectionPlanner.afterTp_saferStop, breakEven, Option.some.injEq]
  have candidate :
      ProtectionPlanner.candidateStop .breakEven stop entry
        previousTpPrice = entry := by
    cases previousTpPrice <;> rfl
  rw [candidate, ProtectionPlanner.neverWorsen]
  split
  · next safer =>
      exact iff_of_true rfl safer
  · next worse =>
      refine iff_of_false ?_ worse
      rintro rfl
      cases side <;> exact worse (decide_eq_true le_rfl)

/-- A reported stop really protects if the stop loss is on the loss side. -/
theorem reallyProtects_iff
    {signal : NormalizedSignal}
    {snapshot : EffectiveConfigSnapshot}
    {entry : Decimal} :
    ReallyProtects signal snapshot entry ↔
      ∀ stop, signal.stopLoss = some stop →
        OnLossSide signal.side stop entry := by
  unfold ReallyProtects
  rw [ProtectionPlanner.initialStop_isProtected,
    ProtectionPlanner.initialStop_initialStop]
  constructor
  · intro protects stop present
    exact (protects (by rw [present]; rfl) stop present).1
  · intro onLossSide _ stop present
    refine ⟨onLossSide stop present, ?_⟩
    intro hitTp later previousTpPrice breakEven
    exact (afterTp_breakEven_iff breakEven).mpr
      (onLossSide stop present).isSafer

/-- A stop that lies beyond the entry, on the gain side of the position. -/
def BeyondEntry (side : Side) (stop entry : Decimal) : Prop :=
  match side with
  | .long => entry < stop
  | .short => stop < entry

/-- No run of the planner brings a stop back from beyond the entry. -/
theorem BeyondEntry.thread
    {side : Side}
    {stop entry : Decimal}
    (beyond : BeyondEntry side stop entry)
    (calls : List StopCall) :
    BeyondEntry side (StopCall.thread side stop calls) entry := by
  have tightened := StopCall.thread_isSafer side stop [] calls
  cases side with
  | long => exact lt_of_lt_of_le beyond (of_decide_eq_true tightened)
  | short => exact lt_of_le_of_lt (of_decide_eq_true tightened) beyond

namespace GenericStructuredParser

/-- The side named by the first signal line of a text. -/
def sideIn (text : String) : Option Side :=
  (signalRe.search text.toList).bind fun found =>
    (sideOf (captured found .side)).toOption

/-- The first stop line of a text is not on the loss side of the entry. -/
def NamesMisplacedStop (text : String) (entry : Decimal) : Prop :=
  ∃ stop ∈ firstPrice slRe text.toList,
    ∃ side ∈ sideIn text, ¬ OnLossSide side stop entry

instance decidableNamesMisplacedStop (text : String) (entry : Decimal) :
    Decidable (NamesMisplacedStop text entry) :=
  inferInstanceAs (Decidable (∃ stop ∈ firstPrice slRe text.toList,
    ∃ side ∈ sideIn text, ¬ OnLossSide side stop entry))

/-- The signal the two guarded stages of the parser extract is parsed. -/
theorem parse_of_extract
    {computeHash : String → String}
    {signalId : UUID}
    {text : String}
    {msg : RawInboundMessage}
    {signal : NormalizedSignal}
    (isText : msg.text = text)
    (extracted :
      SignalIngestionPipeline.extract (plugIn computeHash signalId) msg =
        .ok (some (some signal))) :
    parse computeHash signalId text msg.sourceId (some msg.messageId)
      msg.rawHash = .ok (some signal) := by
  obtain ⟨value, parses, validates⟩ :=
    SignalIngestionPipeline.extract_eq_some_iff.mp extracted
  rw [isText, plugIn_parse_ofString] at parses
  obtain ⟨validated, accepted, same⟩ := map_eq_ok_iff.mp validates
  cases same
  rw [validate_ok accepted]
  exact parses

end GenericStructuredParser

namespace SignalIngestionPipeline

variable {Object : Type}
variable {str : PyException → Except PyException PyString}
variable {signalId : Object → Except PyException (Option UUID)}

/-- The signal a run of a parser reports was extracted. -/
theorem extract_of_runParser
    {parser : SignalParser Object}
    {msg : RawInboundMessage}
    {output : PipelineOutput Object}
    {signal : Object}
    (ran : runParser str signalId parser msg = .ok output)
    (found : output.signal = some signal) :
    extract parser msg = .ok (some (some signal)) := by
  unfold runParser at ran
  split at ran
  · cases ran
  · cases ran
  · cases ran
    cases found
  · unfold report at ran
    split at ran
    · split at ran
      · cases ran
      · cases ran
        cases found
    · cases ran
      cases found
    · cases ran
    · next validated extracted =>
        rw [extracted]
        split at ran
        · cases ran
        · cases ran
          cases found
          rfl

/-- A signal comes from a registered parser that ran on the message. -/
theorem ran_of_process
    {computeHash : String → String}
    {pipeline : SignalIngestionPipeline Object}
    {msg : RawInboundMessage}
    {output : PipelineOutput Object}
    {signal : Object}
    (processed :
      (pipeline.process computeHash str signalId msg).2 = .ok output)
    (found : output.signal = some signal) :
    ∃ parserId version parser hashed,
      msg.withHash computeHash = .ok hashed ∧
        pipeline.parsers.get parserId version = some parser ∧
          runParser str signalId parser hashed = .ok output := by
  cases hashing : msg.withHash computeHash with
  | error raised =>
      rw [pipeline.process_of_unhashed str signalId hashing] at processed
      cases processed
  | ok hashed =>
      rw [pipeline.process_of_hashed str signalId hashing] at processed
      unfold processHashed at processed
      dsimp only at processed
      split at processed
      · cases processed
        cases found
      · next source _ =>
          split at processed
          · cases processed
            cases found
          · split at processed
            · cases processed
              cases found
            · split at processed
              · cases processed
                cases found
              · next parser resolved =>
                  unfold resolveParser at resolved
                  split at resolved
                  · next versioned =>
                      cases resolved
                      exact ⟨_, _, _, hashed, rfl, versioned, processed⟩
                  · exact ⟨_, _, _, hashed, rfl, resolved, processed⟩

end SignalIngestionPipeline

/-- A request that is read to a signal has a text that is parsed to it. -/
theorem parse_of_readRequest
    {computeHash : String → String}
    {str : PyException → String}
    {signalId : UUID}
    {state : DemoState}
    {body : RiskRequest}
    {output : PipelineOutput NormalizedSignal}
    {signal : NormalizedSignal}
    (builtIn :
      state.parsers =
        GenericStructuredParser.buildDefaultRegistry computeHash signalId)
    (reading : readRequest computeHash str state body = .ok output)
    (found : output.signal = some signal) :
    ∃ sourceId messageId rawHash,
      GenericStructuredParser.parse computeHash signalId body.text sourceId
        messageId rawHash = .ok (some signal) := by
  unfold readRequest at reading
  split at reading
  · cases reading
  · next msg created =>
      have sameText : msg.text = body.text :=
        RawInboundMessage.text_of_create created
      split at reading
      · cases reading
      · next processed =>
          cases reading
          obtain ⟨parserId, version, parser, hashed, isHashed, registered,
            ran⟩ := SignalIngestionPipeline.ran_of_process processed found
          have isGeneric :
              parser = GenericStructuredParser.plugIn computeHash signalId :=
            GenericStructuredParser.get_buildDefaultRegistry
              (builtIn ▸ registered)
          rw [isGeneric] at ran
          obtain ⟨_, _, rfl⟩ :=
            RawInboundMessage.withHash_eq_ok_iff.mp isHashed
          have extracted :=
            SignalIngestionPipeline.extract_of_runParser ran found
          have hashedText :=
            GenericStructuredParser.parse_of_extract (by exact sameText)
              extracted
          exact ⟨_, _, _, hashedText⟩

/-- The side and the stop loss of a parsed signal are those of the text. -/
theorem GenericStructuredParser.sideAndStop_of_parsed
    {computeHash : String → String}
    {signalId : UUID}
    {text sourceId : String}
    {messageId : Option String}
    {rawHash : Option PyString}
    {signal : NormalizedSignal}
    (parsed :
      parse computeHash signalId text sourceId messageId rawHash =
        .ok (some signal)) :
    sideIn text = some signal.side ∧
      firstPrice slRe text.toList = signal.stopLoss := by
  obtain ⟨found, side, levels, leverage, hash, located, isSide, _, _,
    created⟩ := parse_created parsed
  rw [NormalizedSignal.create_ok created, sideIn, located, Option.bind_some,
    isSide]
  exact ⟨rfl, rfl⟩

/--
For a text that is read to a signal, a stop reported as protection really
protects exactly unless the text names a stop that is not on the loss side of
the entry.
-/
theorem reportedProtection_iff
    (computeHash : String → String)
    (str : PyException → String)
    (signalId : UUID)
    (state : DemoState)
    (builtIn :
      state.parsers =
        GenericStructuredParser.buildDefaultRegistry computeHash signalId)
    (body : RiskRequest)
    (output : PipelineOutput NormalizedSignal)
    (reading : readRequest computeHash str state body = .ok output)
    (signal : NormalizedSignal)
    (found : output.signal = some signal)
    (snapshot : EffectiveConfigSnapshot)
    (entry : Decimal) :
    ReallyProtects signal snapshot entry ↔
      ¬ GenericStructuredParser.NamesMisplacedStop body.text entry := by
  obtain ⟨sourceId, messageId, rawHash, parsed⟩ :=
    parse_of_readRequest builtIn reading found
  obtain ⟨isSide, isStop⟩ :=
    GenericStructuredParser.sideAndStop_of_parsed parsed
  rw [reallyProtects_iff, GenericStructuredParser.NamesMisplacedStop, isStop,
    isSide]
  constructor
  · rintro onLossSide ⟨stop, named, side, isOwn, misplaced⟩
    cases isOwn
    exact misplaced (onLossSide stop named)
  · intro wellPlaced stop named
    by_contra misplaced
    exact wellPlaced ⟨stop, named, signal.side, rfl, misplaced⟩

/-- A request that leaves the mark price to the signal. -/
def demoRequest
    (text : String)
    (textLength : 1 ≤ text.length ∧ text.length ≤ 8000) : RiskRequest where
  text := text
  sourceId := "src_demo_alpha"
  profileId := "profile_default"
  markPrice := none
  openPositions := 0
  textLength := textLength

/-- A long position at 65000 is protected by a stop at 64000. -/
theorem reportedProtection_iff_below :
    ∃ output signal,
      readRequest (fun _ => "hash") (fun _ => "")
          (.initial (fun _ => "hash") 1)
          (demoRequest "SIGNAL LONG BTCUSDT\nENTRY 65000\nSL 64000"
            (by decide)) = .ok output ∧
        output.signal = some signal ∧
          ReallyProtects signal
            (EffectiveConfigSnapshot.default "src_demo_alpha" "demo" "default"
              "1.0.0") 65000 := by
  have parsed :
      readsSignal
        (readRequest (fun _ => "hash") (fun _ => "")
          (.initial (fun _ => "hash") 1)
          (demoRequest "SIGNAL LONG BTCUSDT\nENTRY 65000\nSL 64000"
            (by decide)))
        (fun _ _ => true) = true := by
    decide +kernel
  obtain ⟨output, signal, reading, found, _⟩ := exists_of_readsSignal parsed
  exact ⟨output, signal, reading, found,
    (reportedProtection_iff _ _ 1 _ rfl _ output reading signal found _
      65000).mpr (by decide +kernel)⟩

/--
A long signal at 65000 with a stop line at 66000 is parsed, and the stop is
reported as protection.
-/
theorem stop_beyond_entry_protects :
    ¬ ∀ (computeHash : String → String) (str : PyException → String)
        (signalId : UUID) (state : DemoState) (body : RiskRequest)
        (output : PipelineOutput NormalizedSignal)
        (signal : NormalizedSignal)
        (snapshot : EffectiveConfigSnapshot),
      state.parsers =
          GenericStructuredParser.buildDefaultRegistry computeHash signalId →
      readRequest computeHash str state body = .ok output →
      output.result.outcome = .parsed →
      output.signal = some signal →
      0 < referencePrice body signal →
        ReallyProtects signal snapshot (referencePrice body signal) := by
  intro protects
  have parsed :
      readsSignal
        (readRequest (fun _ => "hash") (fun _ => "")
          (.initial (fun _ => "hash") 1)
          (demoRequest "SIGNAL LONG BTCUSDT\nENTRY 65000\nSL 66000"
            (by decide)))
        (fun output signal =>
          decide (output.result.outcome = .parsed ∧ signal.side = .long ∧
            signal.stopLoss = some 66000 ∧
              signal.entryPrice = some 65000)) = true := by
    decide +kernel
  obtain ⟨output, signal, reading, found, checked⟩ :=
    exists_of_readsSignal parsed
  obtain ⟨outcome, isLong, stop, priced⟩ := of_decide_eq_true checked
  have reference :
      referencePrice (demoRequest
        "SIGNAL LONG BTCUSDT\nENTRY 65000\nSL 66000" (by decide))
        signal = 65000 := by
    rw [referencePrice, priced]
    decide +kernel
  have claimed :=
    protects (fun _ => "hash") (fun _ => "") 1 _ _ output signal
      (EffectiveConfigSnapshot.default "src_demo_alpha" "demo" "default"
        "1.0.0")
      rfl reading outcome found (by rw [reference]; decide)
  rw [reference, reallyProtects_iff, isLong] at claimed
  exact absurd (claimed 66000 stop) (by decide)

end SafeSignalTrader
