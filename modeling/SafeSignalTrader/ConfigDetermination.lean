import SafeSignalTrader.GenericStructuredParser
import SafeSignalTrader.RiskAgreement
import SafeSignalTrader.SignalAnalysis

/-!
# What the config hash determines

Two profiles with one config hash give one snapshot, so every engine that
reads the snapshot decides alike.  The position limit is handed to the risk
engine from the profile, around the snapshot: the exact inputs on which two
profiles with one hash are decided alike are stated here.
-/

namespace SafeSignalTrader

section Reasons

variable {render : Decimal → String}

/-- The text of a reached position limit determines the limit. -/
theorem RiskReason.maxOpenPositions_text_inj
    {first second : Int}
    (same : (RiskReason.maxOpenPositions first).text render =
      (RiskReason.maxOpenPositions second).text render) :
    first = second := by
  unfold RiskReason.text at same
  simp only [← String.toList_inj, String.toList_append, List.append_assoc,
    List.append_cancel_left_eq, List.append_cancel_right_eq] at same
  exact PythonText.toString_int_injective same

/-- Only the text of a reached position limit starts with its letter. -/
theorem RiskReason.text_head_iff {reason : RiskReason} :
    (reason.text render).toList.head? = some 'm' ↔
      ∃ limit, reason = .maxOpenPositions limit := by
  unfold RiskReason.text
  cases reason with
  | maxOpenPositions limit => simp
  | ok => simp
  | exposureLimit => simp
  | qtyBelowMin qty minQty => simp
  | notionalBelowMin notional => simp
  | notionalNotPositive => simp

/-- No other ground to block a plan reads like a reached position limit. -/
theorem BlockReason.eq_of_text_eq
    {limit : Int}
    {reason : BlockReason RiskReason}
    (same : reason.text (RiskReason.text render) =
      (RiskReason.maxOpenPositions limit).text render) :
    reason = .riskRejected (.maxOpenPositions limit) := by
  have startsSo :
      (reason.text (RiskReason.text render)).toList.head? = some 'm' := by
    rw [same]
    exact RiskReason.text_head_iff.mpr ⟨limit, rfl⟩
  unfold BlockReason.text at same startsSo
  cases reason with
  | riskRejected risk =>
      obtain ⟨other, rfl⟩ := RiskReason.text_head_iff.mp startsSo
      have sameLimit : other = limit :=
        RiskReason.maxOpenPositions_text_inj same
      rw [sameLimit]
  | limitWithoutPrice => simp at startsSo
  | lateLong => simp at startsSo
  | lateShort => simp at startsSo

end Reasons

namespace RiskEngine

variable {arithmetic : DecimalArithmetic}
variable {signal : NormalizedSignal}
variable {snapshot : EffectiveConfigSnapshot}
variable {symbolRules : Option SymbolRules}
variable {currentExposureUsdt : Decimal}
variable {openPositionCount maxOpenPositions limit : Int}
variable {markPrice : Option Decimal}
variable {decision : RiskDecision RiskReason}

/-- Sizing gives no position limit as its reason. -/
theorem conclude_reason_ne
    {leverage : Nat}
    {maxLoss notional : Decimal}
    {quantity : Option Decimal} :
    (conclude leverage maxLoss notional quantity).reason ≠
      .maxOpenPositions limit := by
  unfold conclude
  split
  · simp
  · simp

theorem sizeAtPriceWith_reason_ne
    {leverage : Nat}
    {maxLoss notional price : Decimal}
    (sized :
      sizeAtPriceWith arithmetic symbolRules leverage maxLoss notional
        price = .ok decision) :
    decision.reason ≠ .maxOpenPositions limit := by
  obtain ⟨rawQty, _, rest⟩ := bind_eq_ok_iff.mp sized
  obtain ⟨qty, _, underRules⟩ := bind_eq_ok_iff.mp rest
  split at underRules
  · obtain ⟨lot, _, checked⟩ := bind_eq_ok_iff.mp underRules
    unfold checkUnderRulesWith at checked
    split at checked
    · cases checked
      simp
    · obtain ⟨worth, _, valued⟩ := bind_eq_ok_iff.mp checked
      obtain ⟨cents, _, concluded⟩ := bind_eq_ok_iff.mp valued
      split at concluded
      · cases concluded
        simp
      · cases concluded
        exact conclude_reason_ne
  · cases underRules
    exact conclude_reason_ne

/-- The reached position limit is the reason exactly when it is reached. -/
theorem evaluateWith_reason_maxOpenPositions_iff
    (evaluated :
      evaluateWith arithmetic signal snapshot symbolRules
        currentExposureUsdt openPositionCount maxOpenPositions markPrice =
          .ok decision) :
    decision.reason = .maxOpenPositions limit ↔
      maxOpenPositions ≤ openPositionCount ∧ maxOpenPositions = limit := by
  by_cases slotFree : openPositionCount < maxOpenPositions
  · refine iff_of_false ?_ (fun reached => absurd slotFree
      (not_lt.mpr reached.1))
    rw [evaluateWith_of_free slotFree] at evaluated
    obtain ⟨left, _, returned⟩ := bind_eq_ok_iff.mp evaluated
    cases left with
    | none =>
        cases returned
        simp
    | some budget =>
        dsimp only [sizeBudgetWith] at returned
        split at returned
        · split at returned
          · exact sizeAtPriceWith_reason_ne returned
          · cases returned
            exact conclude_reason_ne
        · cases returned
          exact conclude_reason_ne
  · have reached := not_lt.mp slotFree
    rw [evaluateWith, if_pos reached] at evaluated
    cases evaluated
    simp [reached]

/-- While positions are free, their limit does not matter. -/
theorem evaluateWith_eq_of_free
    {first second : Int}
    (firstFree : openPositionCount < first)
    (secondFree : openPositionCount < second) :
    evaluateWith arithmetic signal snapshot symbolRules currentExposureUsdt
        openPositionCount first markPrice =
      evaluateWith arithmetic signal snapshot symbolRules
        currentExposureUsdt openPositionCount second markPrice := by
  rw [evaluateWith_of_free firstFree, evaluateWith_of_free secondFree]

/-- A reached position limit is reported without any sizing. -/
theorem evaluateWith_of_reached
    (reached : maxOpenPositions ≤ openPositionCount) :
    ∃ decision,
      evaluateWith arithmetic signal snapshot symbolRules
          currentExposureUsdt openPositionCount maxOpenPositions markPrice =
        .ok decision ∧ decision.allowed = false := by
  rw [evaluateWith, if_pos reached]
  exact ⟨_, rfl, rfl⟩

end RiskEngine

namespace EntryPlanner

variable {Reason : Type}
variable {arithmetic : DecimalArithmetic}
variable {signal : NormalizedSignal}
variable {snapshot : EffectiveConfigSnapshot}
variable {risk : RiskDecision Reason}
variable {attempt : Int}
variable {markPrice : Option Decimal}

/-- A plan on another trade id differs in its ids only. -/
theorem plan_tradeId (first second : UUID) :
    plan arithmetic first signal snapshot risk attempt markPrice =
      (plan arithmetic second signal snapshot risk attempt markPrice).map
        fun entry =>
          { entry with
            tradeId := first
            clientOrderId := clientOrderIdText first (toString attempt) } := by
  unfold plan deterministicClientOrderId formatInt
  cases entryTerms arithmetic signal risk markPrice with
  | error signalled => rfl
  | ok terms =>
      split
      · rfl
      · rfl

/-- A denied entry is planned to a blocked one. -/
theorem plan_of_denied
    (tradeId : UUID)
    (denied : risk.allowed = false)
    (printable : PrintableInt attempt) :
    ∃ entry,
      plan arithmetic tradeId signal snapshot risk attempt markPrice =
          .ok entry ∧
        entry.blockReason = some (.riskRejected risk.reason) := by
  have rejected : approvedQuantity? risk = none := by
    rw [approvedQuantity?]
    split
    · rfl
    · exact if_pos (Or.inl denied)
  have terms :
      entryTerms arithmetic signal risk markPrice =
        .ok ⟨0, signal.entryPrice, some (.riskRejected risk.reason)⟩ := by
    rw [entryTerms, rejected]
    rfl
  exact ⟨_, plan_eq_ok_iff.mpr ⟨_, terms, printable, rfl⟩, rfl⟩

end EntryPlanner

section Decisions

variable {render : Decimal → String}

variable (render) in
/-- Two analyses decide alike; reasons are compared as texts. -/
structure SameDecisions (first second : SignalDecisions) : Prop where
  allowed : first.risk.allowed = second.risk.allowed
  leverage : first.risk.leverage = second.risk.leverage
  notional : first.risk.notionalUsdt = second.risk.notionalUsdt
  quantity : first.risk.quantity = second.risk.quantity
  blocked : first.entry.blocked = second.entry.blocked
  blockReason :
    first.entry.blockReason.map (BlockReason.text (RiskReason.text render)) =
      second.entry.blockReason.map (BlockReason.text (RiskReason.text render))
  entryQuantity : first.entry.quantity = second.entry.quantity
  price : first.entry.price = second.entry.price
  protection : first.protection = second.protection
  conflict : first.conflict = second.conflict

theorem SameDecisions.symm
    {first second : SignalDecisions}
    (alike : SameDecisions render first second) :
    SameDecisions render second first :=
  ⟨alike.allowed.symm, alike.leverage.symm, alike.notional.symm,
    alike.quantity.symm, alike.blocked.symm, alike.blockReason.symm,
    alike.entryQuantity.symm, alike.price.symm, alike.protection.symm,
    alike.conflict.symm⟩

variable (render) in
/-- Two answers are the same, or decide alike. -/
def SameAnswer :
    Except ApiError AnalyzeResponse → Except ApiError AnalyzeResponse → Prop
  | .ok (.decided first), .ok (.decided second) =>
      SameDecisions render first second
  | first, second => first = second

theorem SameAnswer.refl (answer : Except ApiError AnalyzeResponse) :
    SameAnswer render answer answer := by
  unfold SameAnswer
  split
  · next same =>
      cases same
      exact ⟨rfl, rfl, rfl, rfl, rfl, rfl, rfl, rfl, rfl, rfl⟩
  · rfl

theorem SameAnswer.symm
    {first second : Except ApiError AnalyzeResponse}
    (alike : SameAnswer render first second) :
    SameAnswer render second first := by
  unfold SameAnswer at alike
  split at alike
  · exact SameDecisions.symm alike
  · next notDecided =>
      subst alike
      unfold SameAnswer
      split
      · exact absurd rfl (notDecided _ _ rfl)
      · rfl

variable {arithmetic : DecimalArithmetic}
variable {body : RiskRequest}
variable {signal : NormalizedSignal}
variable {snapshot : EffectiveConfigSnapshot}
variable {firstTrade secondTrade : UUID}
variable {firstLimit secondLimit : Nat}

/-- Decisions that are answered alike are made alike. -/
theorem exists_of_sameAnswer
    {second : Except PyException SignalDecisions}
    {decided : SignalDecisions}
    (alike : SameAnswer render (answerOf (.ok decided)) (answerOf second)) :
    ∃ other, second = .ok other ∧ SameDecisions render decided other := by
  cases second with
  | error raised => cases alike
  | ok other => exact ⟨other, rfl, alike⟩

/-- Decisions are made of what the engines return. -/
theorem decisionsOn_eq_ok_iff
    {trade : UUID}
    {maxOpenPositions : Nat}
    {decisions : SignalDecisions} :
    decisionsOn trade arithmetic body signal snapshot maxOpenPositions =
        .ok decisions ↔
      ∃ risk entry,
        RiskEngine.evaluateWith arithmetic signal snapshot
            (some (.default signal.symbol)) 0 body.openPositions
            maxOpenPositions (some (referencePrice body signal)) =
          .ok risk ∧
        EntryPlanner.plan arithmetic trade signal snapshot risk 0
            (some (referencePrice body signal)) = .ok entry ∧
        { signal := signal
          snapshot := snapshot
          risk := risk
          entry := entry
          protection :=
            ProtectionPlanner.initialStop signal snapshot
              (some (referencePrice body signal))
          conflict :=
            ConflictResolver.resolve signal snapshot.conflictPolicy [] } =
          decisions := by
  simp only [decisionsOn, bind_eq_ok_iff, mapError_eq_ok_iff]
  constructor
  · rintro ⟨risk, evaluated, entry, planned, same⟩
    exact ⟨risk, entry, evaluated, planned, Except.ok.inj same⟩
  · rintro ⟨risk, entry, evaluated, planned, same⟩
    exact ⟨risk, evaluated, entry, planned, congrArg Except.ok same⟩

/-- The plan is blocked by a position limit exactly when it is reached. -/
theorem decisionsOn_blockReason_iff
    {trade : UUID}
    {maxOpenPositions : Nat}
    {decisions : SignalDecisions}
    (decided :
      decisionsOn trade arithmetic body signal snapshot maxOpenPositions =
        .ok decisions)
    {limit : Int}
    (blocked :
      decisions.entry.blockReason =
        some (.riskRejected (.maxOpenPositions limit))) :
    (maxOpenPositions : Int) = limit := by
  obtain ⟨risk, entry, evaluated, planned, rfl⟩ :=
    decisionsOn_eq_ok_iff.mp decided
  obtain ⟨_, isReached⟩ :=
    (EntryPlanner.plan_riskRejected_iff planned).mp blocked
  exact ((RiskEngine.evaluateWith_reason_maxOpenPositions_iff evaluated).mp
    isReached).2

/-- A reached position limit blocks the plan. -/
theorem decisionsOn_of_reached
    (trade : UUID)
    {maxOpenPositions : Nat}
    (reached : (maxOpenPositions : Int) ≤ body.openPositions) :
    ∃ decisions,
      decisionsOn trade arithmetic body signal snapshot maxOpenPositions =
          .ok decisions ∧
        decisions.entry.blockReason =
          some (.riskRejected (.maxOpenPositions maxOpenPositions)) := by
  obtain ⟨risk, evaluated, denied⟩ :=
    RiskEngine.evaluateWith_of_reached reached
  have isReached :=
    (RiskEngine.evaluateWith_reason_maxOpenPositions_iff evaluated).mpr
      ⟨reached, rfl⟩
  obtain ⟨entry, planned, blocked⟩ :=
    EntryPlanner.plan_of_denied trade denied (by decide : PrintableInt 0)
  rw [isReached] at blocked
  exact ⟨_, decisionsOn_eq_ok_iff.mpr ⟨risk, entry, evaluated, planned, rfl⟩,
    blocked⟩

/-- A plan that one limit blocks is blocked alike by that limit only. -/
theorem limit_eq_of_reached
    (reached : (firstLimit : Int) ≤ body.openPositions)
    (alike :
      SameAnswer render
        (answerOf (decisionsOn firstTrade arithmetic body signal snapshot
          firstLimit))
        (answerOf (decisionsOn secondTrade arithmetic body signal snapshot
          secondLimit))) :
    firstLimit = secondLimit := by
  obtain ⟨first, decided, blocked⟩ := decisionsOn_of_reached firstTrade reached
  rw [decided] at alike
  obtain ⟨second, otherDecided, same⟩ := exists_of_sameAnswer alike
  have sameReason := same.blockReason
  rw [blocked] at sameReason
  obtain ⟨reason, present, sameText⟩ :=
    Option.map_eq_some_iff.mp sameReason.symm
  have sameBlock : reason = .riskRejected (.maxOpenPositions firstLimit) :=
    BlockReason.eq_of_text_eq sameText
  rw [sameBlock] at present
  have sameLimit := decisionsOn_blockReason_iff otherDecided present
  exact (Int.ofNat_inj.mp sameLimit).symm

/-- Nothing but the risk decision depends on the position limit. -/
theorem sameAnswer_of_risk
    (sameRisk :
      RiskEngine.evaluateWith arithmetic signal snapshot
          (some (.default signal.symbol)) 0 body.openPositions firstLimit
          (some (referencePrice body signal)) =
        RiskEngine.evaluateWith arithmetic signal snapshot
          (some (.default signal.symbol)) 0 body.openPositions secondLimit
          (some (referencePrice body signal))) :
    SameAnswer render
      (answerOf (decisionsOn firstTrade arithmetic body signal snapshot
        firstLimit))
      (answerOf (decisionsOn secondTrade arithmetic body signal snapshot
        secondLimit)) := by
  unfold decisionsOn
  simp only [sameRisk]
  cases RiskEngine.evaluateWith arithmetic signal snapshot
      (some (.default signal.symbol)) 0 body.openPositions secondLimit
      (some (referencePrice body signal)) with
  | error signalled =>
      simp only [Except.mapError, bind, Except.bind]
      exact .refl _
  | ok risk =>
      simp only [Except.mapError, bind, Except.bind]
      rw [EntryPlanner.plan_tradeId firstTrade secondTrade]
      cases EntryPlanner.plan arithmetic secondTrade signal snapshot risk 0
          (some (referencePrice body signal)) with
      | error raised => exact .refl _
      | ok entry =>
          simp only [Except.map, answerOf, Except.mapError]
          exact ⟨rfl, rfl, rfl, rfl, rfl, rfl, rfl, rfl, rfl, rfl⟩

/-- Two limits decide alike exactly if both are free, or they are the same. -/
theorem sameAnswer_iff :
    SameAnswer render
        (answerOf (decisionsOn firstTrade arithmetic body signal snapshot
          firstLimit))
        (answerOf (decisionsOn secondTrade arithmetic body signal snapshot
          secondLimit)) ↔
      firstLimit = secondLimit ∨
        body.openPositions < firstLimit ∧
          body.openPositions < secondLimit := by
  constructor
  · intro alike
    by_cases firstFree : body.openPositions < firstLimit
    · by_cases secondFree : body.openPositions < secondLimit
      · exact Or.inr ⟨firstFree, secondFree⟩
      · exact Or.inl
          (limit_eq_of_reached (not_lt.mp secondFree) alike.symm).symm
    · exact Or.inl (limit_eq_of_reached (not_lt.mp firstFree) alike)
  · intro limits
    apply sameAnswer_of_risk
    rcases limits with sameLimit | ⟨firstFree, secondFree⟩
    · rw [sameLimit]
    · exact RiskEngine.evaluateWith_eq_of_free firstFree secondFree

/-- The engines do not look at the profile version of a snapshot. -/
theorem decisionsOn_profileVersion (version : PyString) :
    decisionsOn secondTrade arithmetic body signal
        { snapshot with profileVersion := version } secondLimit =
      (decisionsOn secondTrade arithmetic body signal snapshot
        secondLimit).map fun decisions =>
          { decisions with
            snapshot := { snapshot with profileVersion := version } } := by
  have sameRisk :
      RiskEngine.evaluateWith arithmetic signal
          { snapshot with profileVersion := version }
          (some (.default signal.symbol)) 0 body.openPositions secondLimit
          (some (referencePrice body signal)) =
        RiskEngine.evaluateWith arithmetic signal snapshot
          (some (.default signal.symbol)) 0 body.openPositions secondLimit
          (some (referencePrice body signal)) :=
    rfl
  have samePlan (risk : RiskDecision RiskReason) :
      EntryPlanner.plan arithmetic secondTrade signal
          { snapshot with profileVersion := version } risk 0
          (some (referencePrice body signal)) =
        EntryPlanner.plan arithmetic secondTrade signal snapshot risk 0
          (some (referencePrice body signal)) :=
    rfl
  unfold decisionsOn
  simp only [sameRisk, samePlan]
  cases RiskEngine.evaluateWith arithmetic signal snapshot
      (some (.default signal.symbol)) 0 body.openPositions secondLimit
      (some (referencePrice body signal)) with
  | error signalled => rfl
  | ok risk =>
      simp only [Except.mapError, bind, Except.bind]
      cases EntryPlanner.plan arithmetic secondTrade signal snapshot risk 0
          (some (referencePrice body signal)) with
      | error raised => rfl
      | ok entry => rfl

/-- Answers are compared apart from the profile version. -/
theorem sameAnswer_profileVersion_iff
    {first : Except PyException SignalDecisions}
    (version : PyString) :
    SameAnswer render (answerOf first)
        (answerOf (decisionsOn secondTrade arithmetic body signal
          { snapshot with profileVersion := version } secondLimit)) ↔
      SameAnswer render (answerOf first)
        (answerOf (decisionsOn secondTrade arithmetic body signal snapshot
          secondLimit)) := by
  rw [decisionsOn_profileVersion]
  cases first with
  | error raised =>
      cases decisionsOn secondTrade arithmetic body signal snapshot
          secondLimit with
      | error other => rfl
      | ok decisions => exact iff_of_false nofun nofun
  | ok firstDecisions =>
      cases decisionsOn secondTrade arithmetic body signal snapshot
          secondLimit with
      | error other => rfl
      | ok decisions =>
          constructor
          · intro alike
            exact ⟨alike.allowed, alike.leverage, alike.notional,
              alike.quantity, alike.blocked, alike.blockReason,
              alike.entryQuantity, alike.price, alike.protection,
              alike.conflict⟩
          · intro alike
            exact ⟨alike.allowed, alike.leverage, alike.notional,
              alike.quantity, alike.blocked, alike.blockReason,
              alike.entryQuantity, alike.price, alike.protection,
              alike.conflict⟩

end Decisions

section Determination

variable (computeHash : String → String)
variable (str : PyException → String)
variable (digest : String → String)
variable (render : Decimal → String)
variable (arithmetic : DecimalArithmetic)

/-- An analysis with other profiles in the registry. -/
def analyzeUnder
    (trade : UUID)
    (state : DemoState)
    (body : RiskRequest)
    (profiles : ProfileRegistry) : Except ApiError AnalyzeResponse :=
  (analyzeSignal computeHash str digest render trade arithmetic
    { state with profiles := profiles } body).2

/-- What an analysis answers, when its source and its profile are known. -/
theorem analyzeUnder_eq
    {trade : UUID}
    {state : DemoState}
    {body : RiskRequest}
    {source : SourceConfig}
    {profiles : ProfileRegistry}
    {profile : TradingProfile}
    (sourceKnown : state.sources.get body.sourceId = some source)
    (profileKnown : profiles.get body.profileId = some profile) :
    analyzeUnder computeHash str digest render arithmetic trade state body
        profiles =
      match readRequest computeHash str state body with
      | .error raised => .error raised
      | .ok output =>
          match output.signal with
          | none =>
              .ok (.notParsed output.result.outcome output.result.detail)
          | some signal =>
              answerOf (decisionsOn trade arithmetic body signal
                (buildSnapshot digest render source profile)
                profile.maxOpenPositions) := by
  have sameReading :
      readRequest computeHash str { state with profiles := profiles } body =
        readRequest computeHash str state body :=
    rfl
  unfold analyzeUnder analyzeSignal
  rw [sameReading]
  cases readRequest computeHash str state body with
  | error raised => rfl
  | ok output =>
      dsimp only
      cases output.signal with
      | none => rfl
      | some signal =>
          dsimp only
          rw [sourceKnown, profileKnown]

variable {computeHash : String → String}
variable {str : PyException → String}
variable {digest : String → String}
variable {render : Decimal → String}
variable {arithmetic : DecimalArithmetic}

/-- With a signal in the text, only the position limits can make a difference. -/
theorem sameAnswer_iff_of_signal
    (noCollision : Function.Injective digest)
    (renderInjective : Function.Injective render)
    {firstTrade secondTrade : UUID}
    {state : DemoState}
    {body : RiskRequest}
    {source : SourceConfig}
    (sourceKnown : state.sources.get body.sourceId = some source)
    {firstProfiles secondProfiles : ProfileRegistry}
    {first second : TradingProfile}
    (firstKnown : firstProfiles.get body.profileId = some first)
    (secondKnown : secondProfiles.get body.profileId = some second)
    (sameHash :
      (buildSnapshot digest render source first).configHash =
        (buildSnapshot digest render source second).configHash)
    {output : PipelineOutput NormalizedSignal}
    (reading : readRequest computeHash str state body = .ok output)
    {signal : NormalizedSignal}
    (found : output.signal = some signal) :
    SameAnswer render
        (analyzeUnder computeHash str digest render arithmetic firstTrade
          state body firstProfiles)
        (analyzeUnder computeHash str digest render arithmetic secondTrade
          state body secondProfiles) ↔
      first.maxOpenPositions = second.maxOpenPositions ∨
        body.openPositions < first.maxOpenPositions ∧
          body.openPositions < second.maxOpenPositions := by
  have sameSnapshot :=
    buildSnapshot_eq_of_configHash_eq noCollision renderInjective sameHash
  rw [analyzeUnder_eq _ _ _ _ _ sourceKnown firstKnown,
    analyzeUnder_eq _ _ _ _ _ sourceKnown secondKnown, reading]
  dsimp only
  rw [found, sameSnapshot]
  dsimp only
  rw [sameAnswer_profileVersion_iff]
  exact sameAnswer_iff

variable (computeHash str digest render arithmetic)

/--
Two profiles with one config hash are decided alike exactly if the pipeline
finds no signal in the text, or the profiles have one position limit, or the
open positions reach neither limit.
-/
theorem configDetermines_iff
    (noCollision : Function.Injective digest)
    (renderInjective : Function.Injective render)
    (firstTrade secondTrade : UUID)
    (state : DemoState)
    (body : RiskRequest)
    (source : SourceConfig)
    (sourceKnown : state.sources.get body.sourceId = some source)
    (firstProfiles secondProfiles : ProfileRegistry)
    (first second : TradingProfile)
    (firstKnown : firstProfiles.get body.profileId = some first)
    (secondKnown : secondProfiles.get body.profileId = some second)
    (sameHash :
      (buildSnapshot digest render source first).configHash =
        (buildSnapshot digest render source second).configHash) :
    SameAnswer render
        (analyzeUnder computeHash str digest render arithmetic firstTrade
          state body firstProfiles)
        (analyzeUnder computeHash str digest render arithmetic secondTrade
          state body secondProfiles) ↔
      (∀ output, readRequest computeHash str state body = .ok output →
          output.signal = none) ∨
        first.maxOpenPositions = second.maxOpenPositions ∨
          body.openPositions < first.maxOpenPositions ∧
            body.openPositions < second.maxOpenPositions := by
  cases reading : readRequest computeHash str state body with
  | error raised =>
      rw [analyzeUnder_eq _ _ _ _ _ sourceKnown firstKnown,
        analyzeUnder_eq _ _ _ _ _ sourceKnown secondKnown, reading]
      refine iff_of_true rfl (Or.inl ?_)
      intro output impossible
      cases impossible
  | ok output =>
      cases found : output.signal with
      | none =>
          rw [analyzeUnder_eq _ _ _ _ _ sourceKnown firstKnown,
            analyzeUnder_eq _ _ _ _ _ sourceKnown secondKnown, reading]
          dsimp only
          rw [found]
          refine iff_of_true rfl (Or.inl ?_)
          intro other same
          cases same
          exact found
      | some signal =>
          have signalFound :
              ¬ ∀ other, (.ok output :
                  Except ApiError (PipelineOutput NormalizedSignal)) =
                    .ok other → other.signal = none := by
            intro noSignal
            rw [noSignal output rfl] at found
            cases found
          rw [or_iff_right signalFound]
          exact sameAnswer_iff_of_signal noCollision renderInjective
            sourceKnown firstKnown secondKnown sameHash reading found

section Sample

/-- The hashed text of the default profile under the example source. -/
def defaultPayloadText : String :=
  "\x7b\"account_id\":\"acc_demo_1\",\"allow_partials\":false," ++
    "\"conflict_policy\":\"reject_second\"," ++
    "\"last_tp_mode\":\"trailing\",\"max_leverage\":10," ++
    "\"max_loss_usdt\":\"10\",\"max_notional_usdt\":\"100\"," ++
    "\"profile_id\":\"profile_default\",\"profile_version\":\"1.0.0\"," ++
    "\"schema_version\":\"1.0.0\",\"sl_mode\":\"break_even\"," ++
    "\"source_id\":\"src_demo_alpha\"\x7d"

/-- A digest without collisions that is SHA-256 on that text. -/
def sampleDigest : Equiv.Perm String :=
  Equiv.swap defaultPayloadText "532d9fa8cc9864aff7d3f739375e1c6e"

/-- The default profile with two more positions. -/
def widerProfile : TradingProfile :=
  { ProfileRegistry.defaultProfile with
    maxOpenPositions := 5
    maxOpenPositionsInRange := by decide }

/-- The endpoints after start-up. -/
def sampleState : DemoState where
  sources := .buildExampleRegistry
  parsers :=
    GenericStructuredParser.buildDefaultRegistry
      (fun _ => "e5095f9cc20c4930a5589bb049f66908") 1
  profiles := .buildDefaultProfiles
  msgCounter := 0

/-- A request with a number of open positions. -/
def sampleRequest (openPositions : Int) : RiskRequest where
  text := "SIGNAL LONG XRPUSDT\nENTRY 0.55\nSL 0.50"
  sourceId := "src_demo_alpha"
  profileId := "profile_default"
  markPrice := none
  openPositions := openPositions
  textLength := by decide

/-- The answer to the sample request under one profile. -/
def sampleAnswer
    (openPositions : Int)
    (profile : TradingProfile) : Except ApiError AnalyzeResponse :=
  analyzeUnder (fun _ => "e5095f9cc20c4930a5589bb049f66908")
    (fun _ => "") sampleDigest PythonText.fractionText contextArithmetic 1
    sampleState (sampleRequest openPositions) (ProfileRegistry.empty.register profile)

/-- With two open positions both limits are free and the answers agree. -/
theorem configDetermines_belowLimits :
    SameAnswer PythonText.fractionText
      (sampleAnswer 2 ProfileRegistry.defaultProfile)
      (sampleAnswer 2 widerProfile) :=
  (configDetermines_iff (fun _ => "e5095f9cc20c4930a5589bb049f66908")
    (fun _ => "") sampleDigest PythonText.fractionText contextArithmetic
    sampleDigest.injective PythonText.fractionText_injective 1 1
    sampleState (sampleRequest 2) SourceRegistry.exampleSource
    rfl (ProfileRegistry.empty.register ProfileRegistry.defaultProfile)
    (ProfileRegistry.empty.register widerProfile)
    ProfileRegistry.defaultProfile widerProfile rfl rfl rfl).mpr
      (Or.inr (Or.inr ⟨by decide, by decide⟩))

/--
With three open positions the default profile is full and the wider one is
not, although both have the config hash that SHA-256 gives.
-/
theorem limit_outside_configHash :
    (buildSnapshot sampleDigest PythonText.fractionText
        SourceRegistry.exampleSource
        ProfileRegistry.defaultProfile).configHash =
          "532d9fa8cc9864aff7d3f739375e1c6e" ∧
      (buildSnapshot sampleDigest PythonText.fractionText
        SourceRegistry.exampleSource
        ProfileRegistry.defaultProfile).configHash =
          (buildSnapshot sampleDigest PythonText.fractionText
            SourceRegistry.exampleSource widerProfile).configHash ∧
      ¬ SameAnswer PythonText.fractionText
        (sampleAnswer 3 ProfileRegistry.defaultProfile)
        (sampleAnswer 3 widerProfile) := by
  refine ⟨by decide +kernel, rfl, ?_⟩
  have hasSignal :
      readsSignal
        (readRequest (fun _ => "e5095f9cc20c4930a5589bb049f66908")
          (fun _ => "") sampleState (sampleRequest 3))
        (fun _ _ => true) = true := by
    decide +kernel
  have sourceKnown :
      sampleState.sources.get (sampleRequest 3).sourceId =
        some SourceRegistry.exampleSource := rfl
  have firstKnown :
      (ProfileRegistry.empty.register
          ProfileRegistry.defaultProfile).get (sampleRequest 3).profileId =
        some ProfileRegistry.defaultProfile := rfl
  have secondKnown :
      (ProfileRegistry.empty.register widerProfile).get
          (sampleRequest 3).profileId =
        some widerProfile := rfl
  intro alike
  obtain ⟨output, signal, reading, found, _⟩ :=
    exists_of_readsSignal hasSignal
  have limits :=
    (sameAnswer_iff_of_signal sampleDigest.injective
      PythonText.fractionText_injective sourceKnown firstKnown
      secondKnown rfl reading found).mp alike
  revert limits
  decide

end Sample

end Determination

end SafeSignalTrader
