import SafeSignalTrader.QueueSubmission
import SafeSignalTrader.SignalAnalysis
import SafeSignalTrader.UuidText

/-!
# The offline demo API

The endpoints of `api/demo.py` over the registries, the message counter and
the queue they share.  What `uuid4` and the clock supply is part of a request;
the answers hold the values themselves, except for job ids, which a client gets
and sends as text.
-/

namespace SafeSignalTrader

open RunSemantics

/-- The body of a parse request. -/
structure ParseRequest where
  text : String
  sourceId : String
  textLength : 1 ≤ text.length ∧ text.length ≤ 8000

/-- The answer of `parse_signal`. -/
structure ParseResponse where
  outcome : IngestOutcome
  detail : Option PyString
  parserId : Option PyString
  parserVersion : Option PyString
  signal : Option NormalizedSignal
  deriving Repr, DecidableEq

/-- The body of an enqueue request. -/
structure QueueEnqueueRequest where
  jobType : String
  clientOrderId : Option String

/-- What `uuid4` and the clock supply to an enqueue request. -/
structure EnqueueDraws where
  tradeId : UUID
  clientId : UUID
  job : EnqueueDraw

/-- A job as `queue_claim` shows it. -/
structure JobSummary where
  jobId : String
  jobType : String
  status : JobStatus
  attempt : Nat
  clientOrderId : Option String
  leaseOwner : Option String
  deriving Repr, DecidableEq

/-- The answer of `queue_status`; each job comes with its last error. -/
structure QueueStatus where
  size : Nat
  pending : Nat
  claimed : Nat
  completed : Nat
  manualReview : Nat
  jobs : List (JobSummary × Option String)
  deriving Repr, DecidableEq

/-- The counts in the answer of `overview`, with the ids it lists. -/
structure Overview where
  sourcesCount : Nat
  sourcesEnabled : Nat
  parsers : List PyString
  profiles : List PyString
  queueSize : Nat
  queuePending : Nat
  deriving Repr, DecidableEq

/-- A request to the demo API with what it draws. -/
inductive DemoRequest where
  | overview
  | listSources
  | listProfiles
  | parse (body : ParseRequest) (signalId : UUID)
  | analyze (body : RiskRequest) (signalId tradeId : UUID)
  | queueStatus
  | enqueue (body : QueueEnqueueRequest) (draws : EnqueueDraws)
  | claim (owner : String) (now : Instant)
  | complete (jobId owner : String) (now : Instant)
  | fail (jobId owner error : String) (now : Instant)

/-- An answer of the demo API. -/
inductive DemoResponse where
  | overview (counts : Overview)
  | sources (sources : List SourceConfig)
  | profiles (profiles : List TradingProfile)
  | parsed (response : ParseResponse)
  | analyzed (response : AnalyzeResponse)
  | queueStatus (status : QueueStatus)
  | enqueued
      (jobId : String) (status : JobStatus) (clientOrderId : Option String)
  | claimed (job : Option JobSummary)
  | acted (ok : Bool)

/-- The module state of the endpoints. -/
structure DemoApp where
  sources : SourceRegistry
  profiles : ProfileRegistry
  msgCounter : Nat
  queue : InMemoryJobQueue Bool

/-- The payload `{"demo": True}`. -/
def demoPayload : OrderedDict String Bool :=
  OrderedDict.empty.set "demo" true

/-- `body.client_order_id or f"demo-{uuid4().hex[:10]}"`. -/
def QueueEnqueueRequest.clientId
    (body : QueueEnqueueRequest)
    (drawn : UUID) : String :=
  (body.clientOrderId.filter fun clientOrderId => clientOrderId ≠ "").getD
    ("demo-" ++ String.ofList (drawn.hex.toList.take 10))

/-- The arguments of `enqueue` for a request. -/
def QueueEnqueueRequest.request
    (body : QueueEnqueueRequest)
    (draws : EnqueueDraws) : EnqueueRequest Bool :=
  { (EnqueueRequest.default draws.tradeId body.jobType :
      EnqueueRequest Bool) with
    payload := some demoPayload
    clientOrderId := some (body.clientId draws.clientId) }

/-- What an endpoint shows of a job. -/
def OrderJob.summary (job : OrderJob Bool) : JobSummary where
  jobId := job.jobId.text
  jobType := job.jobType
  status := job.status
  attempt := job.attempt
  clientOrderId := job.clientOrderId
  leaseOwner := job.leaseOwner

namespace DemoApp

/-- The module state before the first request. -/
def initial : DemoApp where
  sources := .buildExampleRegistry
  profiles := .buildDefaultProfiles
  msgCounter := 0
  queue := .empty

section Reads

variable (app : DemoApp)

/-- `list_profiles`. -/
def listProfiles : List TradingProfile :=
  app.profiles.listIds.filterMap app.profiles.get

/-- `queue_status`, with the last twenty jobs. -/
def queueStatus : QueueStatus where
  size := app.queue.size
  pending := (app.queue.listByStatus .pending).length
  claimed := (app.queue.listByStatus .claimed).length
  completed := (app.queue.listByStatus .completed).length
  manualReview := (app.queue.listByStatus .manualReview).length
  jobs :=
    (app.queue.jobs.values.drop (app.queue.jobs.values.length - 20)).map
      fun job => (job.summary, job.lastError)

end Reads

section Endpoints

variable (computeHash : String → String)
variable (str : PyException → String)
variable (digest : String → String)
variable (render : Decimal → String)
variable (repr : String → String)

/-- The module state as an analysis reads it; the parser draws its ids. -/
def analysisState (app : DemoApp) (signalId : UUID) : DemoState where
  sources := app.sources
  parsers := GenericStructuredParser.buildDefaultRegistry computeHash signalId
  profiles := app.profiles
  msgCounter := app.msgCounter

/-- `overview`; the ids of the parsers do not depend on what they draw. -/
def overview (app : DemoApp) : Overview where
  sourcesCount := app.sources.listAll.length
  sourcesEnabled := app.sources.listEnabled.length
  parsers := (app.analysisState computeHash 0).parsers.listIds
  profiles := app.profiles.listIds
  queueSize := app.queue.size
  queuePending := (app.queue.listByStatus .pending).length

/-- `parse_signal`. -/
def parseSignal
    (app : DemoApp)
    (body : ParseRequest)
    (signalId : UUID) : DemoApp × Except ApiError DemoResponse :=
  let counted := { app with msgCounter := app.msgCounter + 1 }
  let state := app.analysisState computeHash signalId
  match RawInboundMessage.create body.sourceId
      ("demo-" ++ toString counted.msgCounter) body.text with
  | .error exception => (counted, .error (.raised exception))
  | .ok msg =>
      match (SignalIngestionPipeline.process computeHash
          (fun raised => .ok (str raised)) NormalizedSignal.readSignalId
          (.create state.sources state.parsers) msg).2 with
      | .error exception => (counted, .error (.raised exception))
      | .ok output =>
          (counted, .ok (.parsed
            { outcome := output.result.outcome
              detail := output.result.detail
              parserId := output.result.parserId
              parserVersion := output.result.parserVersion
              signal := output.signal }))

/-- `analyze_signal` on the shared state. -/
def analyze
    (app : DemoApp)
    (body : RiskRequest)
    (signalId tradeId : UUID) : DemoApp × Except ApiError DemoResponse :=
  let analysis :=
    analyzeSignal computeHash str digest render tradeId contextArithmetic
      (app.analysisState computeHash signalId) body
  ({ app with msgCounter := analysis.1.msgCounter },
    analysis.2.map .analyzed)

/-- `queue_enqueue`. -/
def queueEnqueue
    (app : DemoApp)
    (body : QueueEnqueueRequest)
    (draws : EnqueueDraws) : DemoApp × Except ApiError DemoResponse :=
  let enqueued := app.queue.enqueue (body.request draws) draws.job
  ({ app with queue := enqueued.1 },
    .ok (.enqueued enqueued.2.jobId.text enqueued.2.status
      enqueued.2.clientOrderId))

/-- `queue_claim`; the lease lasts a minute. -/
def queueClaim
    (app : DemoApp)
    (owner : String)
    (now : Instant) : DemoApp × Except ApiError DemoResponse :=
  let claim := app.queue.claim owner now 60
  ({ app with queue := claim.1 },
    match claim.2 with
    | .error exception => .error (.raised exception)
    | .ok job => .ok (.claimed (job.map OrderJob.summary)))

/-- An endpoint that acts on the job of an id; a text that is none raises. -/
def onJob
    (app : DemoApp)
    (jobId : String)
    (act : UUID → InMemoryJobQueue Bool × Bool) :
    DemoApp × Except ApiError DemoResponse :=
  match UUID.ofText repr jobId with
  | .error raised => (app, .error (.raised raised))
  | .ok uuid => ({ app with queue := (act uuid).1 }, .ok (.acted (act uuid).2))

/-- `queue_complete`. -/
def queueComplete
    (app : DemoApp)
    (jobId owner : String)
    (now : Instant) : DemoApp × Except ApiError DemoResponse :=
  app.onJob repr jobId fun uuid => app.queue.complete uuid owner now

/-- `queue_fail`. -/
def queueFail
    (app : DemoApp)
    (jobId owner error : String)
    (now : Instant) : DemoApp × Except ApiError DemoResponse :=
  app.onJob repr jobId fun uuid => app.queue.fail uuid owner error now

/-- Answer one request. -/
def step (app : DemoApp) : DemoRequest → DemoApp × Except ApiError DemoResponse
  | .overview => (app, .ok (.overview (app.overview computeHash)))
  | .listSources => (app, .ok (.sources app.sources.listAll))
  | .listProfiles => (app, .ok (.profiles app.listProfiles))
  | .parse body signalId => app.parseSignal computeHash str body signalId
  | .analyze body signalId tradeId =>
      app.analyze computeHash str digest render body signalId tradeId
  | .queueStatus => (app, .ok (.queueStatus app.queueStatus))
  | .enqueue body draws => app.queueEnqueue body draws
  | .claim owner now => app.queueClaim owner now
  | .complete jobId owner now => app.queueComplete repr jobId owner now
  | .fail jobId owner error now => app.queueFail repr jobId owner error now

/-- The call a request makes on the queue, if it makes one. -/
def queueCall? : DemoRequest → Option (QueueOp Bool)
  | .enqueue body draws => some (.enqueue (body.request draws) draws.job)
  | .claim owner now => some (.claim owner 60 now)
  | .complete jobId owner now =>
      (UUID.ofText repr jobId).toOption.map fun uuid =>
        .complete uuid owner now
  | .fail jobId owner error now =>
      (UUID.ofText repr jobId).toOption.map fun uuid =>
        .fail uuid owner error now
  | _ => none

/-- The demo API as a machine; an enqueue draws a job id that is not in use. -/
def demoMachine :
    Machine DemoApp DemoRequest (Except ApiError DemoResponse) where
  step := step computeHash str digest render repr
  admits := fun app request =>
    ∀ call ∈ queueCall? repr request, app.queue.DrawsFresh call

/-- The demo API after some requests. -/
def after (requests : List DemoRequest) : DemoApp :=
  (demoMachine computeHash str digest render repr).final .initial requests

end Endpoints

end DemoApp

end SafeSignalTrader
