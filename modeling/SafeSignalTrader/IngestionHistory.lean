import SafeSignalTrader.IngestionPipeline
import SafeSignalTrader.RunSemantics

/-!
# At-most-once ingestion

Runs of one pipeline: messages are processed while sources are registered and
switched on and off, and while the parsers behind the registry behave as they
please.  The dedup store is tied to the history of admitted messages, those
that were not refused for their source or as a duplicate.
-/

namespace SafeSignalTrader

open RunSemantics

section Steps

variable (Object : Type)

/-- One step of the life of a pipeline. -/
inductive IngestionOp where
  | process (msg : RawInboundMessage)
  | register (source : SourceConfig)
  | enable (sourceId : String)
  | disable (sourceId : String)
  | parsersBecome (parsers : ParserRegistry Object)

/-- What a step returns. -/
inductive IngestionReply where
  | processed (output : Except PyException (PipelineOutput Object))
  | registered
  | switched (found : Bool)
  | parsersReplaced

end Steps

section Outcomes

variable {Object : Type}

/-- The outcome of a call to `process`, unless an exception escaped it. -/
def outcome? (output : Except PyException (PipelineOutput Object)) :
    Option IngestOutcome :=
  output.toOption.map fun output => output.result.outcome

/-- A message was refused for its source or as a duplicate. -/
def Refused (output : Except PyException (PipelineOutput Object)) : Prop :=
  outcome? output = some .sourceUnknown ∨
    outcome? output = some .sourceDisabled ∨
      outcome? output = some .duplicate

instance decidableRefused
    (output : Except PyException (PipelineOutput Object)) :
    Decidable (Refused output) :=
  inferInstanceAs (Decidable (_ ∨ _ ∨ _))

/-- An exception is no refusal. -/
theorem not_refused_error (raised : PyException) :
    ¬ Refused (.error raised :
      Except PyException (PipelineOutput Object)) := by
  simp [Refused, outcome?, Except.toOption]

end Outcomes

namespace RawInboundMessage

/-- The message carries a hash, or its text can be hashed or is empty. -/
def Hashable (msg : RawInboundMessage) : Prop :=
  msg.rawHash = none → msg.text ≠ "" → msg.text.Encodable

variable (computeHash : String → String)
variable {msg hashed : RawInboundMessage}

/-- The effective hash is computed exactly for a hashable message. -/
theorem hashable_iff :
    msg.Hashable ↔ ∃ hash, msg.effectiveHash computeHash = .ok hash := by
  unfold Hashable effectiveHash computeTextHash hashText
  cases msg.rawHash with
  | some rawHash => simp
  | none =>
      by_cases empty : msg.text = ""
      · simp [empty]
      · cases encoded : msg.text.encode? with
        | none =>
            have surrogates := PyString.encode?_eq_none_iff.mp encoded
            simp [empty, surrogates, Except.map]
        | some text =>
            have encodable : msg.text.Encodable := by
              by_contra surrogates
              rw [PyString.encode?_eq_none_iff.mpr surrogates] at encoded
              cases encoded
            simp [empty, encodable, Except.map]

variable {computeHash}

/-- Filling in the hash changes nothing else. -/
theorem withHash_eq_ok_iff :
    msg.withHash computeHash = .ok hashed ↔
      ∃ hash, msg.effectiveHash computeHash = .ok hash ∧
        { msg with rawHash := hash } = hashed :=
  map_eq_ok_iff

end RawInboundMessage

namespace SignalIngestionPipeline

section Process

variable {Object : Type}
variable (computeHash : String → String)
variable (str : PyException → Except PyException PyString)
variable (signalId : Object → Except PyException (Option UUID))
variable (pipeline : SignalIngestionPipeline Object)
variable (msg : RawInboundMessage)

/-- The report of the parser stages is no refusal. -/
theorem report_not_refused
    (parser : SignalParser Object)
    (extracted : Except PyException (Option (Option Object))) :
    ¬ Refused (report str signalId parser msg extracted) := by
  unfold report
  split
  · split
    · exact not_refused_error _
    · simp [Refused, outcome?, Except.toOption, out]
  · simp [Refused, outcome?, Except.toOption, out]
  · exact not_refused_error _
  · split
    · exact not_refused_error _
    · simp [Refused, outcome?, Except.toOption]

/-- Parser stages never end in a refusal. -/
theorem runParser_not_refused (parser : SignalParser Object) :
    ¬ Refused (runParser str signalId parser msg) := by
  unfold runParser
  split
  · exact not_refused_error _
  · exact not_refused_error _
  · simp [Refused, outcome?, Except.toOption, out]
  · exact report_not_refused str signalId msg parser _

/-- The source of a message is registered and switched on. -/
def Open : Prop :=
  ∃ source, pipeline.sources.get msg.sourceId = some source ∧
    source.enabled = true

/-- The pipeline after a hashed message was admitted. -/
def mark : SignalIngestionPipeline Object :=
  { pipeline with dedup := pipeline.dedup.markSeen msg }

/--
What `process` does to the pipeline once the message is hashed: it refuses a
message whose source is not open or which is a duplicate, and marks every
other message.
-/
theorem processHashed_cases :
    (¬ pipeline.Open msg ∧
        (outcome? (pipeline.processHashed str signalId msg).2 =
            some .sourceUnknown ∨
          outcome? (pipeline.processHashed str signalId msg).2 =
            some .sourceDisabled) ∧
        (pipeline.processHashed str signalId msg).1 = pipeline) ∨
      (pipeline.Open msg ∧
        pipeline.dedup.isDuplicate msg = true ∧
        outcome? (pipeline.processHashed str signalId msg).2 =
          some .duplicate ∧
        (pipeline.processHashed str signalId msg).1 = pipeline) ∨
      (pipeline.Open msg ∧
        pipeline.dedup.isDuplicate msg = false ∧
        ¬ Refused (pipeline.processHashed str signalId msg).2 ∧
        (pipeline.processHashed str signalId msg).1 = pipeline.mark msg) := by
  unfold processHashed
  cases found : pipeline.sources.get msg.sourceId with
  | none =>
      refine Or.inl ⟨?_, Or.inl ?_, rfl⟩
      · intro opened
        obtain ⟨source, known, _⟩ := opened
        rw [found] at known
        cases known
      · simp [outcome?, Except.toOption, out]
  | some source =>
      cases enabled : source.enabled with
      | false =>
          refine Or.inl ⟨?_, Or.inr ?_, ?_⟩
          · intro opened
            obtain ⟨other, known, switchedOn⟩ := opened
            rw [found, Option.some.injEq] at known
            rw [← known, enabled] at switchedOn
            cases switchedOn
          · simp [enabled, outcome?, Except.toOption, out]
          · simp [enabled]
      | true =>
          have opened : pipeline.Open msg := ⟨source, found, enabled⟩
          cases seen : pipeline.dedup.isDuplicate msg with
          | true =>
              refine Or.inr (Or.inl ⟨opened, rfl, ?_, ?_⟩)
              · simp [enabled, outcome?, Except.toOption, out]
              · simp [enabled]
          | false =>
              refine Or.inr (Or.inr ⟨opened, rfl, ?_, ?_⟩)
              · simp only [enabled, Bool.not_true, Bool.false_eq_true,
                  ↓reduceIte]
                split
                · simp [Refused, outcome?, Except.toOption, out]
                · exact runParser_not_refused str signalId _ _
              · simp only [enabled, Bool.not_true, Bool.false_eq_true,
                  ↓reduceIte]
                split <;> rfl

/-- A hashed message marks the pipeline unless it is refused. -/
theorem processHashed_fst :
    (pipeline.processHashed str signalId msg).1 =
      if Refused (pipeline.processHashed str signalId msg).2 then
        pipeline
      else
        pipeline.mark msg := by
  rcases pipeline.processHashed_cases str signalId msg with
    ⟨_, unknown | disabled, unchanged⟩ | ⟨_, _, duplicate, unchanged⟩ |
      ⟨_, _, admitted, marked⟩
  · have refused :
        Refused (pipeline.processHashed str signalId msg).2 :=
      Or.inl unknown
    rw [if_pos refused, unchanged]
  · have refused :
        Refused (pipeline.processHashed str signalId msg).2 :=
      Or.inr (Or.inl disabled)
    rw [if_pos refused, unchanged]
  · have refused :
        Refused (pipeline.processHashed str signalId msg).2 :=
      Or.inr (Or.inr duplicate)
    rw [if_pos refused, unchanged]
  · rw [if_neg admitted, marked]

variable {computeHash} {msg}

/-- A hashed message goes on to the source lookup. -/
theorem process_of_hashed
    {hashed : RawInboundMessage}
    (isHashed : msg.withHash computeHash = .ok hashed) :
    pipeline.process computeHash str signalId msg =
      pipeline.processHashed str signalId hashed := by
  rw [process, isHashed]

/-- A message that cannot be hashed raises and changes nothing. -/
theorem process_of_unhashed
    {raised : PyException}
    (unhashed : msg.withHash computeHash = .error raised) :
    pipeline.process computeHash str signalId msg =
      (pipeline, .error raised) := by
  rw [process, unhashed]

/-- A hashed message has the source of the message. -/
theorem open_of_hashed
    {hashed : RawInboundMessage}
    (isHashed : msg.withHash computeHash = .ok hashed) :
    pipeline.Open hashed ↔ pipeline.Open msg := by
  obtain ⟨_, _, rfl⟩ := RawInboundMessage.withHash_eq_ok_iff.mp isHashed
  exact Iff.rfl

/-- A hashed message is a duplicate if its source is open and it is known. -/
theorem process_duplicate_iff
    {hashed : RawInboundMessage}
    (isHashed : msg.withHash computeHash = .ok hashed) :
    outcome? (pipeline.process computeHash str signalId msg).2 =
        some .duplicate ↔
      pipeline.Open msg ∧ pipeline.dedup.isDuplicate hashed = true := by
  rw [pipeline.process_of_hashed str signalId isHashed,
    ← pipeline.open_of_hashed isHashed]
  rcases pipeline.processHashed_cases str signalId hashed with
    ⟨closed, unknown | disabled, _⟩ | ⟨opened, seen, duplicate, _⟩ |
      ⟨_, fresh, admitted, _⟩
  · simp [unknown, closed]
  · simp [disabled, closed]
  · simp [duplicate, opened, seen]
  · rw [fresh]
    constructor
    · intro duplicate
      exact (admitted (Or.inr (Or.inr duplicate))).elim
    · intro duplicate
      obtain ⟨_, impossible⟩ := duplicate
      cases impossible

variable (computeHash) (msg)

/-- The pipeline after a message that is not refused. -/
def marked : SignalIngestionPipeline Object :=
  match msg.withHash computeHash with
  | .error _ => pipeline
  | .ok hashed => pipeline.mark hashed

/-- A message marks the pipeline unless it is refused. -/
theorem process_fst :
    (pipeline.process computeHash str signalId msg).1 =
      if Refused (pipeline.process computeHash str signalId msg).2 then
        pipeline
      else
        pipeline.marked computeHash msg := by
  unfold marked
  cases hashing : msg.withHash computeHash with
  | error raised =>
      rw [pipeline.process_of_unhashed str signalId hashing, ite_self]
  | ok hashed =>
      rw [pipeline.process_of_hashed str signalId hashing,
        processHashed_fst]

/-- A refused message leaves the pipeline as it was. -/
theorem process_refused
    (refused :
      Refused (pipeline.process computeHash str signalId msg).2) :
    (pipeline.process computeHash str signalId msg).1 = pipeline := by
  rw [process_fst, if_pos refused]

end Process

end SignalIngestionPipeline

namespace InMemoryDedupStore

variable (store : InMemoryDedupStore)
variable (msg : RawInboundMessage)

theorem contentHash?_eq_some_iff {hash : PyString} :
    contentHash? msg = some hash ↔ msg.rawHash = some hash ∧ hash ≠ "" := by
  simp [contentHash?, Option.filter_eq_some_iff]

/-- When a message counts as seen. -/
theorem isDuplicate_iff :
    store.isDuplicate msg = true ↔
      (msg.sourceId, msg.messageId) ∈ store.seen ∨
        msg.isEdit = false ∧
          ∃ hash, msg.rawHash = some hash ∧ hash ≠ "" ∧
            (msg.sourceId, hash) ∈ store.hashes := by
  unfold isDuplicate
  by_cases seen : (msg.sourceId, msg.messageId) ∈ store.seen
  · simp [seen]
  · rw [if_neg seen]
    cases content : contentHash? msg with
    | none =>
        constructor
        · intro impossible
          cases impossible
        · intro known
          rcases known with member | ⟨_, hash, supplied, nonempty, _⟩
          · exact (seen member).elim
          · have present :=
              (contentHash?_eq_some_iff msg).mpr ⟨supplied, nonempty⟩
            rw [content] at present
            cases present
    | some hash =>
        obtain ⟨supplied, nonempty⟩ :=
          (contentHash?_eq_some_iff msg).mp content
        simp only [Bool.and_eq_true, decide_eq_true_eq, Bool.not_eq_true']
        constructor
        · intro known
          obtain ⟨known, fresh⟩ := known
          exact Or.inr ⟨fresh, hash, supplied, nonempty, known⟩
        · intro known
          rcases known with member | ⟨fresh, other, otherSupplied, _, known⟩
          · exact (seen member).elim
          · rw [supplied, Option.some.injEq] at otherSupplied
            rw [otherSupplied]
            exact ⟨known, fresh⟩

theorem mem_seen_markSeen {key : String × String} :
    key ∈ (store.markSeen msg).seen ↔
      key = (msg.sourceId, msg.messageId) ∨ key ∈ store.seen :=
  Finset.mem_insert

theorem mem_hashes_markSeen {sourceId : String} {hash : PyString} :
    (sourceId, hash) ∈ (store.markSeen msg).hashes ↔
      (hash ≠ "" ∧ msg.sourceId = sourceId ∧ msg.rawHash = some hash) ∨
        (sourceId, hash) ∈ store.hashes := by
  simp only [markSeen]
  cases content : contentHash? msg with
  | none =>
      constructor
      · exact Or.inr
      · intro known
        rcases known with ⟨nonempty, _, supplied⟩ | member
        · have present :=
            (contentHash?_eq_some_iff msg).mpr ⟨supplied, nonempty⟩
          rw [content] at present
          cases present
        · exact member
  | some rawHash =>
      obtain ⟨supplied, nonempty⟩ :=
        (contentHash?_eq_some_iff msg).mp content
      rw [Finset.mem_insert, supplied, Prod.mk.injEq, Option.some.injEq]
      constructor
      · intro known
        rcases known with ⟨sameSource, rfl⟩ | member
        · exact Or.inl ⟨nonempty, sameSource.symm, rfl⟩
        · exact Or.inr member
      · intro known
        rcases known with ⟨_, sameSource, sameHash⟩ | member
        · exact Or.inl ⟨sameSource.symm, sameHash.symm⟩
        · exact Or.inr member

end InMemoryDedupStore

section Runs

variable {Object : Type}
variable (computeHash : String → String)
variable (str : PyException → Except PyException PyString)
variable (signalId : Object → Except PyException (Option UUID))

/-- The pipeline as a machine that assumes nothing of its environment. -/
def ingestionMachine :
    Machine (SignalIngestionPipeline Object) (IngestionOp Object)
      (IngestionReply Object) where
  step := fun pipeline op =>
    match op with
    | .process msg =>
        ((pipeline.process computeHash str signalId msg).1,
          .processed (pipeline.process computeHash str signalId msg).2)
    | .register source =>
        ({ pipeline with sources := pipeline.sources.register source },
          .registered)
    | .enable sourceId =>
        ({ pipeline with sources := (pipeline.sources.enable sourceId).1 },
          .switched (pipeline.sources.enable sourceId).2)
    | .disable sourceId =>
        ({ pipeline with sources := (pipeline.sources.disable sourceId).1 },
          .switched (pipeline.sources.disable sourceId).2)
    | .parsersBecome parsers =>
        ({ pipeline with parsers := parsers }, .parsersReplaced)
  admits := fun _ _ => True

/-- The record of one step of a pipeline. -/
abbrev IngestionRecord (Object : Type) :=
  Executed (SignalIngestionPipeline Object) (IngestionOp Object)
    (IngestionReply Object)

/-- The message of a `process` call that did not refuse it. -/
def admittedMessage? (executed : IngestionRecord Object) :
    Option RawInboundMessage :=
  match executed.op, executed.reply with
  | .process msg, .processed output =>
      if Refused output then none else some msg
  | _, _ => none

/-- The messages a run admitted, oldest first. -/
def admittedMessages (records : List (IngestionRecord Object)) :
    List RawInboundMessage :=
  records.filterMap admittedMessage?

/-- The key of the message of a `process` call that returned a signal. -/
def parsedKey? (executed : IngestionRecord Object) :
    Option (String × String) :=
  match executed.op, executed.reply with
  | .process msg, .processed output =>
      if outcome? output = some .parsed then
        some (msg.sourceId, msg.messageId)
      else
        none
  | _, _ => none

/-- The keys of the messages a run parsed, oldest first. -/
def parsedKeys (records : List (IngestionRecord Object)) :
    List (String × String) :=
  records.filterMap parsedKey?

/-- A message whose hash is not supplied can be hashed. -/
def IngestionOp.Hashable : IngestionOp Object → Prop
  | .process msg => msg.Hashable
  | _ => True

/-- Processing a message appends its key exactly if a signal came out. -/
theorem parsedKeys_append_process
    (pipeline : SignalIngestionPipeline Object)
    (past : List (IngestionRecord Object))
    (msg : RawInboundMessage) :
    parsedKeys (past ++
        [(ingestionMachine computeHash str signalId).execute pipeline
          (.process msg)]) =
      parsedKeys past ++
        if outcome? (pipeline.process computeHash str signalId msg).2 =
            some .parsed then
          [(msg.sourceId, msg.messageId)]
        else
          [] := by
  have lastKey :
      parsedKey? ((ingestionMachine computeHash str signalId).execute
          pipeline (.process msg)) =
        if outcome? (pipeline.process computeHash str signalId msg).2 =
            some .parsed then
          some (msg.sourceId, msg.messageId)
        else
          none :=
    rfl
  rw [parsedKeys, parsedKeys, List.filterMap_append]
  congr 1
  rw [List.filterMap_cons, lastKey]
  split <;> simp_all

/-- The parsed keys of a run are marked, each of them once. -/
structure ParsedHistory
    (pipeline : SignalIngestionPipeline Object)
    (past : List (IngestionRecord Object)) : Prop where
  parsedSeen :
    ∀ key ∈ parsedKeys past, key ∈ pipeline.dedup.seen
  parsedOnce : (parsedKeys past).Nodup

namespace ParsedHistory

variable {computeHash str signalId}
variable {pipeline : SignalIngestionPipeline Object}
variable {past : List (IngestionRecord Object)}

/-- A step that parses nothing and forgets nothing keeps the history. -/
theorem append_quiet
    (history : ParsedHistory pipeline past)
    {next : SignalIngestionPipeline Object}
    {executed : IngestionRecord Object}
    (sameStore : next.dedup = pipeline.dedup)
    (notParsed : parsedKey? executed = none) :
    ParsedHistory next (past ++ [executed]) := by
  have sameKeys : parsedKeys (past ++ [executed]) = parsedKeys past := by
    simp [parsedKeys, List.filterMap_append, notParsed]
  constructor
  · rw [sameStore, sameKeys]
    exact history.parsedSeen
  · rw [sameKeys]
    exact history.parsedOnce

/-- A signal comes out of a new message that was marked just before. -/
theorem seen_of_parsed
    {msg : RawInboundMessage}
    (parsed :
      outcome? (pipeline.process computeHash str signalId msg).2 =
        some .parsed) :
    (msg.sourceId, msg.messageId) ∉ pipeline.dedup.seen ∧
      ∀ key,
        key ∈ (pipeline.process computeHash str signalId msg).1.dedup.seen ↔
          key = (msg.sourceId, msg.messageId) ∨
            key ∈ pipeline.dedup.seen := by
  cases hashing : msg.withHash computeHash with
  | error raised =>
      rw [pipeline.process_of_unhashed str signalId hashing] at parsed
      simp [outcome?, Except.toOption] at parsed
  | ok hashed =>
      have process := pipeline.process_of_hashed str signalId hashing
      obtain ⟨_, _, rfl⟩ := RawInboundMessage.withHash_eq_ok_iff.mp hashing
      rw [process] at parsed ⊢
      rcases pipeline.processHashed_cases str signalId _ with
        ⟨_, unknown | disabled, _⟩ | ⟨_, _, duplicate, _⟩ |
          ⟨_, fresh, _, marked⟩
      · rw [unknown] at parsed
        cases parsed
      · rw [disabled] at parsed
        cases parsed
      · rw [duplicate] at parsed
        cases parsed
      · rw [← Bool.not_eq_true, InMemoryDedupStore.isDuplicate_iff] at fresh
        refine ⟨fun member => fresh (Or.inl member), ?_⟩
        intro key
        rw [marked, SignalIngestionPipeline.mark,
          InMemoryDedupStore.mem_seen_markSeen]

/-- Processing a message forgets no key. -/
theorem seen_process
    (msg : RawInboundMessage)
    {key : String × String}
    (seen : key ∈ pipeline.dedup.seen) :
    key ∈ (pipeline.process computeHash str signalId msg).1.dedup.seen := by
  rw [SignalIngestionPipeline.process_fst]
  split
  · exact seen
  · unfold SignalIngestionPipeline.marked
    split
    · exact seen
    · exact (InMemoryDedupStore.mem_seen_markSeen _ _).mpr (Or.inr seen)

/-- A message that is processed keeps the history. -/
theorem append_process
    (history : ParsedHistory pipeline past)
    (msg : RawInboundMessage) :
    ParsedHistory (pipeline.process computeHash str signalId msg).1
      (past ++ [(ingestionMachine computeHash str signalId).execute pipeline
        (.process msg)]) := by
  have keys := parsedKeys_append_process computeHash str signalId pipeline
    past msg
  by_cases parsed :
      outcome? (pipeline.process computeHash str signalId msg).2 =
        some .parsed
  · rw [if_pos parsed] at keys
    obtain ⟨isNew, seen⟩ := seen_of_parsed parsed
    constructor
    · intro key member
      rw [keys, List.mem_append] at member
      rcases member with before | last
      · exact (seen key).mpr (Or.inr (history.parsedSeen key before))
      · exact (seen key).mpr (Or.inl (List.mem_singleton.mp last))
    · rw [keys]
      apply List.Nodup.append history.parsedOnce (List.nodup_singleton _)
      rw [List.disjoint_singleton]
      exact fun member => isNew (history.parsedSeen _ member)
  · rw [if_neg parsed, List.append_nil] at keys
    constructor
    · intro key member
      rw [keys] at member
      exact seen_process msg (history.parsedSeen key member)
    · rw [keys]
      exact history.parsedOnce

/-- Every step extends the history. -/
theorem step
    (history : ParsedHistory pipeline past)
    (op : IngestionOp Object) :
    ParsedHistory
      ((ingestionMachine computeHash str signalId).step pipeline op).1
      (past ++
        [(ingestionMachine computeHash str signalId).execute pipeline op])
      := by
  cases op with
  | process msg => exact history.append_process msg
  | _ => exact history.append_quiet rfl rfl

/-- The history of a whole run. -/
theorem of_run
    (computeHash : String → String)
    (str : PyException → Except PyException PyString)
    (signalId : Object → Except PyException (Option UUID))
    (sources : SourceRegistry)
    (parsers : ParserRegistry Object)
    (ops : List (IngestionOp Object)) :
    ParsedHistory
      ((ingestionMachine computeHash str signalId).final
        (.create sources parsers) ops)
      ((ingestionMachine computeHash str signalId).trace
        (.create sources parsers) ops) :=
  (ingestionMachine computeHash str signalId).historyInvariant
    ParsedHistory ⟨by simp [parsedKeys], List.nodup_nil⟩
    (fun _ _ op history _ => history.step op)
    ((ingestionMachine computeHash str signalId).admitted_of_always
      (fun _ _ => trivial) _ ops)

end ParsedHistory

/-- The dedup store holds exactly what the admitted messages put there. -/
structure DedupHistory
    (pipeline : SignalIngestionPipeline Object)
    (past : List (IngestionRecord Object)) : Prop where
  seen :
    ∀ sourceId messageId,
      (sourceId, messageId) ∈ pipeline.dedup.seen ↔
        ∃ earlier ∈ admittedMessages past,
          earlier.sourceId = sourceId ∧ earlier.messageId = messageId
  hashes :
    ∀ sourceId hash,
      (sourceId, hash) ∈ pipeline.dedup.hashes ↔
        hash ≠ "" ∧
          ∃ earlier ∈ admittedMessages past,
            earlier.sourceId = sourceId ∧
              earlier.effectiveHash computeHash = .ok (some hash)

namespace DedupHistory

variable {computeHash str signalId}
variable {pipeline : SignalIngestionPipeline Object}
variable {past : List (IngestionRecord Object)}

/-- A new pipeline has admitted nothing. -/
theorem initially
    (sources : SourceRegistry)
    (parsers : ParserRegistry Object) :
    DedupHistory computeHash (.create sources parsers) [] where
  seen := by
    simp [SignalIngestionPipeline.create, InMemoryDedupStore.empty,
      admittedMessages]
  hashes := by
    simp [SignalIngestionPipeline.create, InMemoryDedupStore.empty,
      admittedMessages]

/-- A step that admits nothing keeps the history. -/
theorem append_quiet
    (history : DedupHistory computeHash pipeline past)
    {next : SignalIngestionPipeline Object}
    {executed : IngestionRecord Object}
    (sameStore : next.dedup = pipeline.dedup)
    (notAdmitted : admittedMessage? executed = none) :
    DedupHistory computeHash next (past ++ [executed]) := by
  have sameMessages :
      admittedMessages (past ++ [executed]) = admittedMessages past := by
    simp [admittedMessages, List.filterMap_append, notAdmitted]
  constructor
  · rw [sameStore, sameMessages]
    exact history.seen
  · rw [sameStore, sameMessages]
    exact history.hashes

/-- An admitted message enters the history. -/
theorem append_admitted
    (history : DedupHistory computeHash pipeline past)
    {msg hashed : RawInboundMessage}
    (isHashed : msg.withHash computeHash = .ok hashed)
    {executed : IngestionRecord Object}
    (admitted : admittedMessage? executed = some msg) :
    DedupHistory computeHash (pipeline.mark hashed)
      (past ++ [executed]) := by
  obtain ⟨hash, isHash, rfl⟩ :=
    RawInboundMessage.withHash_eq_ok_iff.mp isHashed
  have newMessages :
      admittedMessages (past ++ [executed]) =
        admittedMessages past ++ [msg] := by
    simp [admittedMessages, List.filterMap_append, admitted]
  constructor
  · intro sourceId messageId
    rw [SignalIngestionPipeline.mark,
      InMemoryDedupStore.mem_seen_markSeen, history.seen, newMessages]
    constructor
    · intro known
      rcases known with isNew | ⟨earlier, member, sameKey⟩
      · rw [Prod.mk.injEq] at isNew
        exact ⟨msg, by simp, isNew.1.symm, isNew.2.symm⟩
      · exact ⟨earlier, List.mem_append_left _ member, sameKey⟩
    · intro known
      obtain ⟨earlier, member, sameSource, sameMessage⟩ := known
      rcases List.mem_append.mp member with before | isNew
      · exact Or.inr ⟨earlier, before, sameSource, sameMessage⟩
      · rw [List.mem_singleton.mp isNew] at sameSource sameMessage
        exact Or.inl (Prod.ext sameSource.symm sameMessage.symm)
  · intro sourceId known
    rw [SignalIngestionPipeline.mark,
      InMemoryDedupStore.mem_hashes_markSeen, history.hashes, newMessages]
    constructor
    · intro stored
      rcases stored with
        ⟨nonempty, sameSource, supplied⟩ | ⟨nonempty, earlier, member, carries⟩
      · have carried : hash = some known := supplied
        rw [carried] at isHash
        exact ⟨nonempty, msg, by simp, sameSource, isHash⟩
      · exact ⟨nonempty, earlier, List.mem_append_left _ member, carries⟩
    · intro stored
      obtain ⟨nonempty, earlier, member, sameSource, carries⟩ := stored
      rcases List.mem_append.mp member with before | isNew
      · exact Or.inr ⟨nonempty, earlier, before, sameSource, carries⟩
      · rw [List.mem_singleton.mp isNew] at sameSource carries
        rw [isHash, Except.ok.injEq] at carries
        exact Or.inl ⟨nonempty, sameSource, carries⟩

/-- Every step on a hashable message extends the history. -/
theorem step
    (history : DedupHistory computeHash pipeline past)
    {op : IngestionOp Object}
    (hashable : op.Hashable) :
    DedupHistory computeHash
      ((ingestionMachine computeHash str signalId).step pipeline op).1
      (past ++
        [(ingestionMachine computeHash str signalId).execute pipeline op])
      := by
  cases op with
  | process msg =>
      obtain ⟨hash, isHash⟩ :=
        (RawInboundMessage.hashable_iff computeHash).mp hashable
      have isHashed :=
        RawInboundMessage.withHash_eq_ok_iff.mpr ⟨hash, isHash, rfl⟩
      change DedupHistory computeHash
        (pipeline.process computeHash str signalId msg).1 _
      rw [pipeline.process_fst computeHash str signalId msg]
      by_cases refused :
          Refused (pipeline.process computeHash str signalId msg).2
      · rw [if_pos refused]
        exact history.append_quiet rfl (if_pos refused)
      · rw [if_neg refused, SignalIngestionPipeline.marked, isHashed]
        exact history.append_admitted isHashed (if_neg refused)
  | _ =>
      exact history.append_quiet rfl rfl

/-- The history of a whole run of hashable messages. -/
theorem of_run
    (computeHash : String → String)
    (str : PyException → Except PyException PyString)
    (signalId : Object → Except PyException (Option UUID))
    (sources : SourceRegistry)
    (parsers : ParserRegistry Object)
    {ops : List (IngestionOp Object)}
    (hashable : ∀ op ∈ ops, op.Hashable) :
    DedupHistory computeHash
      ((ingestionMachine computeHash str signalId).final
        (.create sources parsers) ops)
      ((ingestionMachine computeHash str signalId).trace
        (.create sources parsers) ops) := by
  apply (ingestionMachine computeHash str signalId).historyInvariant_restrict
    (fun _ op => op.Hashable) (DedupHistory computeHash)
    (initially sources parsers)
  · intro pipeline past op history _ opHashable
    exact history.step opHashable
  · exact (ingestionMachine computeHash str signalId).admitted_of_always
      (fun _ _ => trivial) _ ops
  · intro executed member
    apply hashable
    rw [← (ingestionMachine computeHash str signalId).trace_map_op
      (.create sources parsers) ops]
    exact List.mem_map_of_mem member

end DedupHistory

section OtherSources

/-- Operations that are not messages of another source. -/
def IngestionOp.concerns (sourceId : String) : IngestionOp Object → Bool
  | .process msg => msg.sourceId = sourceId
  | _ => true

/-- Two pipelines that one source cannot tell apart. -/
structure AlikeFor
    (sourceId : String)
    (full reduced : SignalIngestionPipeline Object) : Prop where
  sources : full.sources = reduced.sources
  parsers : full.parsers = reduced.parsers
  seen :
    ∀ messageId,
      (sourceId, messageId) ∈ full.dedup.seen ↔
        (sourceId, messageId) ∈ reduced.dedup.seen
  hashes :
    ∀ hash,
      (sourceId, hash) ∈ full.dedup.hashes ↔
        (sourceId, hash) ∈ reduced.dedup.hashes

namespace AlikeFor

variable {sourceId : String}
variable {full reduced : SignalIngestionPipeline Object}

/-- The duplicate check does not tell the pipelines apart. -/
theorem isDuplicate
    (alike : AlikeFor sourceId full reduced)
    {msg : RawInboundMessage}
    (own : msg.sourceId = sourceId) :
    full.dedup.isDuplicate msg = reduced.dedup.isDuplicate msg := by
  rw [Bool.eq_iff_iff, InMemoryDedupStore.isDuplicate_iff,
    InMemoryDedupStore.isDuplicate_iff, own, alike.seen]
  simp only [alike.hashes]

/-- Processing an own message gives both pipelines the same reply. -/
theorem reply
    (alike : AlikeFor sourceId full reduced)
    {msg : RawInboundMessage}
    (own : msg.sourceId = sourceId) :
    (full.process computeHash str signalId msg).2 =
      (reduced.process computeHash str signalId msg).2 := by
  cases hashing : msg.withHash computeHash with
  | error raised =>
      rw [full.process_of_unhashed str signalId hashing,
        reduced.process_of_unhashed str signalId hashing]
  | ok hashed =>
      have hashedOwn : hashed.sourceId = sourceId := by
        obtain ⟨_, _, rfl⟩ :=
          RawInboundMessage.withHash_eq_ok_iff.mp hashing
        exact own
      rw [full.process_of_hashed str signalId hashing,
        reduced.process_of_hashed str signalId hashing]
      simp only [SignalIngestionPipeline.processHashed, alike.sources,
        alike.isDuplicate hashedOwn,
        SignalIngestionPipeline.resolveParser, alike.parsers]
      split
      · rfl
      · split
        · rfl
        · split
          · rfl
          · split <;> rfl

/-- Marking an own message on both sides keeps them alike. -/
theorem mark_both
    (alike : AlikeFor sourceId full reduced)
    (msg : RawInboundMessage) :
    AlikeFor sourceId (full.mark msg) (reduced.mark msg) where
  sources := alike.sources
  parsers := alike.parsers
  seen := by
    intro messageId
    rw [SignalIngestionPipeline.mark, SignalIngestionPipeline.mark,
      InMemoryDedupStore.mem_seen_markSeen,
      InMemoryDedupStore.mem_seen_markSeen, alike.seen]
  hashes := by
    intro hash
    rw [SignalIngestionPipeline.mark, SignalIngestionPipeline.mark,
      InMemoryDedupStore.mem_hashes_markSeen,
      InMemoryDedupStore.mem_hashes_markSeen, alike.hashes]

/-- Marking a message of another source on one side keeps them alike. -/
theorem mark_other
    (alike : AlikeFor sourceId full reduced)
    {msg : RawInboundMessage}
    (other : msg.sourceId ≠ sourceId) :
    AlikeFor sourceId (full.mark msg) reduced where
  sources := alike.sources
  parsers := alike.parsers
  seen := by
    intro messageId
    rw [SignalIngestionPipeline.mark,
      InMemoryDedupStore.mem_seen_markSeen, ← alike.seen]
    constructor
    · intro known
      rcases known with isOther | member
      · exact (other (congrArg Prod.fst isOther).symm).elim
      · exact member
    · exact Or.inr
  hashes := by
    intro hash
    rw [SignalIngestionPipeline.mark,
      InMemoryDedupStore.mem_hashes_markSeen, ← alike.hashes]
    constructor
    · intro known
      rcases known with ⟨_, isOther, _⟩ | member
      · exact (other isOther).elim
      · exact member
    · exact Or.inr

/-- An operation both sides perform is answered alike and keeps them alike. -/
theorem step_both
    (alike : AlikeFor sourceId full reduced)
    {op : IngestionOp Object}
    (concerned : op.concerns sourceId = true) :
    AlikeFor sourceId
        ((ingestionMachine computeHash str signalId).step full op).1
        ((ingestionMachine computeHash str signalId).step reduced op).1 ∧
      ((ingestionMachine computeHash str signalId).step full op).2 =
        ((ingestionMachine computeHash str signalId).step reduced op).2 := by
  obtain ⟨sameSources, sameParsers, sameSeen, sameHashes⟩ := alike
  cases op with
  | process msg =>
      have alike : AlikeFor sourceId full reduced :=
        ⟨sameSources, sameParsers, sameSeen, sameHashes⟩
      have own : msg.sourceId = sourceId := of_decide_eq_true concerned
      have sameReply := alike.reply computeHash str signalId own
      refine ⟨?_, congrArg IngestionReply.processed sameReply⟩
      change AlikeFor sourceId
        (full.process computeHash str signalId msg).1
        (reduced.process computeHash str signalId msg).1
      rw [full.process_fst, reduced.process_fst, sameReply]
      split
      · exact alike
      · unfold SignalIngestionPipeline.marked
        cases msg.withHash computeHash with
        | error raised => exact alike
        | ok hashed => exact alike.mark_both hashed
  | register source =>
      exact ⟨⟨congrArg (fun sources => sources.register source) sameSources,
        sameParsers, sameSeen, sameHashes⟩, rfl⟩
  | enable target =>
      exact ⟨⟨congrArg (fun sources => (sources.enable target).1)
        sameSources, sameParsers, sameSeen, sameHashes⟩,
        congrArg (fun sources : SourceRegistry =>
          IngestionReply.switched (sources.enable target).2) sameSources⟩
  | disable target =>
      exact ⟨⟨congrArg (fun sources => (sources.disable target).1)
        sameSources, sameParsers, sameSeen, sameHashes⟩,
        congrArg (fun sources : SourceRegistry =>
          IngestionReply.switched (sources.disable target).2) sameSources⟩
  | parsersBecome parsers =>
      exact ⟨⟨sameSources, rfl, sameSeen, sameHashes⟩, rfl⟩

/-- A message of another source moves only one side and keeps them alike. -/
theorem step_other
    (alike : AlikeFor sourceId full reduced)
    {op : IngestionOp Object}
    (foreign : op.concerns sourceId = false) :
    AlikeFor sourceId
      ((ingestionMachine computeHash str signalId).step full op).1
      reduced := by
  cases op with
  | process msg =>
      have other : msg.sourceId ≠ sourceId := of_decide_eq_false foreign
      change AlikeFor sourceId
        (full.process computeHash str signalId msg).1 reduced
      rw [full.process_fst]
      split
      · exact alike
      · unfold SignalIngestionPipeline.marked
        cases hashing : msg.withHash computeHash with
        | error raised => exact alike
        | ok hashed =>
            obtain ⟨_, _, rfl⟩ :=
              RawInboundMessage.withHash_eq_ok_iff.mp hashing
            exact alike.mark_other other
  | _ =>
      cases foreign

end AlikeFor

/-- Deleting the messages of all other sources changes no reply. -/
theorem otherSources_erased
    (sourceId : String)
    (initial : SignalIngestionPipeline Object)
    (ops : List (IngestionOp Object)) :
    (Machine.keepRecords (IngestionOp.concerns sourceId)
        ((ingestionMachine computeHash str signalId).trace initial ops)).map
          Executed.reply =
      ((ingestionMachine computeHash str signalId).trace initial
        (ops.filter (IngestionOp.concerns sourceId))).map
          Executed.reply := by
  refine ((ingestionMachine computeHash str signalId).erasure_simulation
    (IngestionOp.concerns sourceId) Executed.reply
    (fun _ => True) (fun _ full reduced => AlikeFor sourceId full reduced)
    (fun _ _ _ => trivial)
    ⟨rfl, rfl, fun _ => Iff.rfl, fun _ => Iff.rfl⟩ ?_ ?_ ops trivial).2.2
  · intro past full reduced op alike _ concerned
    obtain ⟨stillAlike, sameReply⟩ :=
      alike.step_both computeHash str signalId concerned
    exact ⟨trivial, stillAlike, sameReply⟩
  · intro past full reduced op alike _ foreign
    exact alike.step_other computeHash str signalId foreign

end OtherSources

/--
At-most-once ingestion.  After any run of one pipeline on messages whose hash
is supplied or can be computed, such a message is answered `DUPLICATE` exactly
if its source is open and an earlier admitted message of the source has its
message id, or, unless it is an edit, its non-empty hash.  After any run at
all, no key was parsed twice; messages of other sources change no reply; and a
refused message leaves the pipeline, its dedup store included, as it was.
-/
theorem atMostOnceIngestion
    (sources : SourceRegistry)
    (parsers : ParserRegistry Object)
    (ops : List (IngestionOp Object)) :
    let initial := SignalIngestionPipeline.create sources parsers
    let machine := ingestionMachine computeHash str signalId
    let pipeline := machine.final initial ops
    let records := machine.trace initial ops
    ((∀ op ∈ ops, op.Hashable) →
        ∀ msg : RawInboundMessage, msg.Hashable →
          (outcome? (pipeline.process computeHash str signalId msg).2 =
              some .duplicate ↔
            (∃ source, pipeline.sources.get msg.sourceId = some source ∧
                source.enabled = true) ∧
              ((∃ earlier ∈ admittedMessages records,
                  earlier.sourceId = msg.sourceId ∧
                    earlier.messageId = msg.messageId) ∨
                (msg.isEdit = false ∧
                  ∃ hash,
                    msg.effectiveHash computeHash = .ok (some hash) ∧
                      hash ≠ "" ∧
                        ∃ earlier ∈ admittedMessages records,
                          earlier.sourceId = msg.sourceId ∧
                            earlier.effectiveHash computeHash =
                              .ok (some hash))))) ∧
      (parsedKeys records).Nodup ∧
      (∀ sourceId,
        (Machine.keepRecords (IngestionOp.concerns sourceId) records).map
            Executed.reply =
          (machine.trace initial
            (ops.filter (IngestionOp.concerns sourceId))).map
              Executed.reply) ∧
      ∀ msg : RawInboundMessage,
        Refused (pipeline.process computeHash str signalId msg).2 →
          (pipeline.process computeHash str signalId msg).1 = pipeline := by
  intro initial machine pipeline records
  have parsed : ParsedHistory pipeline records :=
    ParsedHistory.of_run computeHash str signalId sources parsers ops
  refine ⟨?_, parsed.parsedOnce,
    fun sourceId =>
      otherSources_erased computeHash str signalId sourceId initial ops,
    ?_⟩
  · intro hashable msg msgHashable
    have history : DedupHistory computeHash pipeline records :=
      DedupHistory.of_run computeHash str signalId sources parsers hashable
    obtain ⟨hash, isHash⟩ :=
      (RawInboundMessage.hashable_iff computeHash).mp msgHashable
    rw [pipeline.process_duplicate_iff str signalId
        (RawInboundMessage.withHash_eq_ok_iff.mpr ⟨hash, isHash, rfl⟩),
      InMemoryDedupStore.isDuplicate_iff]
    apply and_congr Iff.rfl
    apply or_congr
    · exact history.seen msg.sourceId msg.messageId
    · apply and_congr Iff.rfl
      apply exists_congr
      intro known
      rw [history.hashes, isHash, Except.ok.injEq]
      apply and_congr Iff.rfl
      tauto
  · intro msg refused
    exact pipeline.process_refused computeHash str signalId msg refused

end Runs

/-- A message from the example source. -/
def plainMessage : RawInboundMessage where
  sourceId := "src_demo_alpha"
  messageId := "m1"
  text := "hello"
  isEdit := false
  rawHash := none
  sourceIdLength := SourceRegistry.exampleSource.sourceIdLength
  messageIdLength := by decide

/-- A message whose text is a lone surrogate. -/
def surrogateMessage : RawInboundMessage :=
  { plainMessage with text := ⟨[0xD800]⟩ }

theorem plainMessage_hashable : plainMessage.Hashable :=
  fun _ _ => PyString.encodable_ofString "hello"

/-- A message that is redelivered word for word is a duplicate. -/
theorem atMostOnceIngestion_redelivered :
    outcome? (((ingestionMachine
        (fun _ => "2cf24dba5fb0a30e26e83b2ac5b9e29e") (fun _ => .ok "")
        (fun _ : Unit => .ok none)).final
          (.create .buildExampleRegistry .empty)
          [.process plainMessage]).process
            (fun _ => "2cf24dba5fb0a30e26e83b2ac5b9e29e") (fun _ => .ok "")
            (fun _ => .ok none) plainMessage).2 =
      some .duplicate :=
  ((atMostOnceIngestion (fun _ => "2cf24dba5fb0a30e26e83b2ac5b9e29e")
    (fun _ => .ok "") (fun _ : Unit => .ok none) .buildExampleRegistry .empty
    [.process plainMessage]).1
      (List.forall_mem_singleton.mpr plainMessage_hashable) plainMessage
      plainMessage_hashable).mpr
        ⟨⟨_, rfl, rfl⟩,
          Or.inl ⟨plainMessage, List.mem_singleton_self _, rfl, rfl⟩⟩

/-- A surrogate text under an admitted key raises. -/
theorem surrogate_redelivery_raises :
    ¬ ∀ (computeHash : String → String)
        (str : PyException → Except PyException PyString)
        (signalId : Unit → Except PyException (Option UUID))
        (sources : SourceRegistry) (parsers : ParserRegistry Unit)
        (ops : List (IngestionOp Unit)) (msg : RawInboundMessage),
      let machine := ingestionMachine computeHash str signalId
      let initial := SignalIngestionPipeline.create sources parsers
      let pipeline := machine.final initial ops
      (∃ source, pipeline.sources.get msg.sourceId = some source ∧
          source.enabled = true) →
        (∃ earlier ∈ admittedMessages (machine.trace initial ops),
          earlier.sourceId = msg.sourceId ∧
            earlier.messageId = msg.messageId) →
          outcome? (pipeline.process computeHash str signalId msg).2 =
            some .duplicate := by
  intro redelivered
  have duplicate :=
    redelivered (fun _ => "2cf24dba5fb0a30e26e83b2ac5b9e29e")
      (fun _ => .ok "") (fun _ => .ok none) .buildExampleRegistry .empty
      [.process plainMessage] surrogateMessage ⟨_, rfl, rfl⟩
      ⟨plainMessage, List.mem_singleton_self _, rfl, rfl⟩
  exact absurd duplicate (by decide)

end SafeSignalTrader
