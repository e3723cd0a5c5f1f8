import Mathlib.Data.Finset.Insert
import SafeSignalTrader.ParserRegistry
import SafeSignalTrader.SourceRegistry

/-!
# The ingestion pipeline

`SignalIngestionPipeline.process` of `ingestion/pipeline.py` with its dedup
store: source lookup, duplicate check, parser binding and the three parser
stages.  The digest of an encoded text, `str` of an exception and the signal
id that an object hands over are parameters; an exception that escapes
`process` is its result.
-/

namespace SafeSignalTrader

/-- Result of processing one inbound message. -/
inductive IngestOutcome where
  | duplicate
  | sourceDisabled
  | sourceUnknown
  | parseSkipped
  | parseFailed
  | parsed
  deriving Repr, DecidableEq

/-- A raw message as it arrives from a source. -/
structure RawInboundMessage where
  sourceId : String
  messageId : String
  text : PyString
  isEdit : Bool
  rawHash : Option PyString
  sourceIdLength : 1 ≤ sourceId.length ∧ sourceId.length ≤ 64
  messageIdLength : 1 ≤ messageId.length ∧ messageId.length ≤ 128
  deriving Repr

/-- The outcome of one pipeline run, without the signal. -/
structure IngestResult where
  outcome : IngestOutcome
  sourceId : String
  messageId : String
  signalId : Option UUID
  parserId : Option PyString
  parserVersion : Option PyString
  detail : Option PyString
  deriving Repr, DecidableEq

/-- What `process` returns. -/
structure PipelineOutput (Object : Type) where
  result : IngestResult
  signal : Option Object
  deriving Repr, DecidableEq

/-- The class name of an exception. -/
def PyException.typeName : PyException → String
  | .validationError .. => "ValidationError"
  | .valueError _ => "ValueError"
  | .keyError _ => "KeyError"
  | .overflowError => "OverflowError"
  | .unicodeEncodeError => "UnicodeEncodeError"
  | .decimal .invalidOperation => "InvalidOperation"
  | .decimal .divisionByZero => "DivisionByZero"
  | .decimal .overflow => "Overflow"
  | .other typeName _ => typeName

/-- `_compute_hash`. -/
def computeTextHash
    (computeHash : String → String)
    (text : PyString) : Except PyException PyString :=
  hashText computeHash text

namespace RawInboundMessage

/-- The supplied hash, or the hash of a text that is not empty. -/
def effectiveHash
    (computeHash : String → String)
    (msg : RawInboundMessage) : Except PyException (Option PyString) :=
  match msg.rawHash with
  | some rawHash => .ok (some rawHash)
  | none =>
      if msg.text ≠ "" then
        (computeTextHash computeHash msg.text).map some
      else
        .ok none

/-- The message with its effective hash filled in. -/
def withHash
    (computeHash : String → String)
    (msg : RawInboundMessage) : Except PyException RawInboundMessage :=
  (msg.effectiveHash computeHash).map fun rawHash =>
    { msg with rawHash := rawHash }

end RawInboundMessage

/-- The (source, message) pairs and (source, hash) pairs seen so far. -/
structure InMemoryDedupStore where
  seen : Finset (String × String)
  hashes : Finset (String × PyString)
  deriving DecidableEq

namespace InMemoryDedupStore

/-- `InMemoryDedupStore()`. -/
def empty : InMemoryDedupStore :=
  ⟨∅, ∅⟩

/-- The hash the content check looks at: present and not empty. -/
def contentHash? (msg : RawInboundMessage) : Option PyString :=
  msg.rawHash.filter fun rawHash => rawHash ≠ ""

/-- Whether a message counts as seen; an edit escapes the content check. -/
def isDuplicate
    (store : InMemoryDedupStore)
    (msg : RawInboundMessage) : Bool :=
  if (msg.sourceId, msg.messageId) ∈ store.seen then
    true
  else
    match contentHash? msg with
    | some rawHash =>
        decide ((msg.sourceId, rawHash) ∈ store.hashes) && !msg.isEdit
    | none => false

/-- Record a message. -/
def markSeen
    (store : InMemoryDedupStore)
    (msg : RawInboundMessage) : InMemoryDedupStore where
  seen := insert (msg.sourceId, msg.messageId) store.seen
  hashes :=
    match contentHash? msg with
    | some rawHash => insert (msg.sourceId, rawHash) store.hashes
    | none => store.hashes

end InMemoryDedupStore

/-- The pipeline with the registries it reads and the store it owns. -/
structure SignalIngestionPipeline (Object : Type) where
  sources : SourceRegistry
  parsers : ParserRegistry Object
  dedup : InMemoryDedupStore

namespace SignalIngestionPipeline

variable {Object : Type}

/-- `SignalIngestionPipeline(sources, parsers)` with its own dedup store. -/
def create
    (sources : SourceRegistry)
    (parsers : ParserRegistry Object) : SignalIngestionPipeline Object :=
  ⟨sources, parsers, .empty⟩

/-- A result without a signal. -/
def out
    (outcome : IngestOutcome)
    (msg : RawInboundMessage)
    (parserId : Option PyString := none)
    (parserVersion : Option PyString := none)
    (detail : Option PyString := none) : PipelineOutput Object where
  result :=
    { outcome := outcome
      sourceId := msg.sourceId
      messageId := msg.messageId
      signalId := none
      parserId := parserId
      parserVersion := parserVersion
      detail := detail }
  signal := none

/-- The parser at its version, or else the latest one of the id. -/
def resolveParser
    (pipeline : SignalIngestionPipeline Object)
    (parserId version : PyString) : Option (SignalParser Object) :=
  match pipeline.parsers.get parserId (some version) with
  | some parser => some parser
  | none => pipeline.parsers.get parserId

/--
The parse and validate stages inside the `try` block: nothing if `parse`
returned `None`, and else what `validate` returned.
-/
def extract
    (parser : SignalParser Object)
    (msg : RawInboundMessage) :
    Except PyException (Option (Option Object)) :=
  match parser.parse msg.text msg.sourceId (some msg.messageId)
      msg.rawHash with
  | .error raised => .error raised
  | .ok none => .ok none
  | .ok (some value) => (parser.validate value).map some

section Stages

variable (computeHash : String → String)
variable (str : PyException → Except PyException PyString)
variable (signalId : Object → Except PyException (Option UUID))

/--
The result of the parser stages; the text of a failure and the access to the
signal id are not guarded.
-/
def report
    (parser : SignalParser Object)
    (msg : RawInboundMessage) :
    Except PyException (Option (Option Object)) →
      Except PyException (PipelineOutput Object)
  | .error raised =>
      match str raised with
      | .error strRaised => .error strRaised
      | .ok message =>
          .ok (out .parseFailed msg (some parser.parserId)
            (some parser.parserVersion)
            (some (raised.typeName ++ ": " ++ message)))
  | .ok none =>
      .ok (out .parseSkipped msg (some parser.parserId)
        (some parser.parserVersion) (some "parse returned None"))
  | .ok (some none) => .error (missingAttribute "NoneType" "signal_id")
  | .ok (some (some validated)) =>
      match signalId validated with
      | .error raised => .error raised
      | .ok read =>
          .ok {
            result :=
              { outcome := .parsed
                sourceId := msg.sourceId
                messageId := msg.messageId
                signalId := read
                parserId := some parser.parserId
                parserVersion := some parser.parserVersion
                detail := none }
            signal := some validated }

/-- The result once a parser is bound; `can_parse` is not guarded. -/
def runParser
    (parser : SignalParser Object)
    (msg : RawInboundMessage) :
    Except PyException (PipelineOutput Object) :=
  match parser.canParse msg.text with
  | .error raised => .error raised
  | .ok (.error raised) => .error raised
  | .ok (.ok false) =>
      .ok (out .parseSkipped msg (some parser.parserId)
        (some parser.parserVersion) (some "can_parse=false"))
  | .ok (.ok true) => report str signalId parser msg (extract parser msg)

/-- `process` from the source lookup on. -/
def processHashed
    (pipeline : SignalIngestionPipeline Object)
    (msg : RawInboundMessage) :
    SignalIngestionPipeline Object ×
      Except PyException (PipelineOutput Object) :=
  match pipeline.sources.get msg.sourceId with
  | none =>
      (pipeline, .ok (out .sourceUnknown msg none none
        (some ("unknown source_id=" ++ msg.sourceId))))
  | some source =>
      if !source.enabled then
        (pipeline, .ok (out .sourceDisabled msg none none
          (some ("source " ++ msg.sourceId ++ " disabled"))))
      else if pipeline.dedup.isDuplicate msg then
        (pipeline, .ok (out .duplicate msg none none
          (some "already seen (source_id, message_id)")))
      else
        let marked :=
          { pipeline with dedup := pipeline.dedup.markSeen msg }
        match marked.resolveParser source.parserId source.parserVersion with
        | none =>
            (marked, .ok (out .parseSkipped msg none none
              (some ("no parser for " ++ source.parserId ++ "@" ++
                source.parserVersion))))
        | some parser => (marked, runParser str signalId parser msg)

/-- Process a single inbound message; its hash comes first, and may raise. -/
def process
    (pipeline : SignalIngestionPipeline Object)
    (msg : RawInboundMessage) :
    SignalIngestionPipeline Object ×
      Except PyException (PipelineOutput Object) :=
  match msg.withHash computeHash with
  | .error raised => (pipeline, .error raised)
  | .ok hashed => pipeline.processHashed str signalId hashed

end Stages

end SignalIngestionPipeline

end SafeSignalTrader
