import SafeSignalTrader.DomainModels

/-!
# The in-memory job queue

`InMemoryJobQueue` of `infrastructure/queue/memory.py`.  The store is an
insertion-ordered dictionary of job records; `claim` scans it from the oldest
entry.  Clock readings and the identifier drawn by `uuid4` are arguments, in
the order in which the source takes them.

The end of a lease is a `datetime`, so `claim` and `heartbeat` raise an
`OverflowError` when the lease length takes it out of the calendar.  `claim` has
written the status and the owner by then.
-/

namespace SafeSignalTrader

variable {Value : Type}

namespace OrderJob

/-- A claimed job whose lease deadline has passed. -/
def leaseExpired (job : OrderJob Value) (now : Instant) : Bool :=
  match job.status, job.leaseUntil with
  | .claimed, some deadline => decide (deadline < now)
  | _, _ => false

/-- A job `claim` may hand out: pending, or claimed under an expired lease. -/
def claimable (job : OrderJob Value) (now : Instant) : Bool :=
  decide (job.status = .pending) || job.leaseExpired now

/-- The record after `claim` handed the job to an owner. -/
def taken
    (job : OrderJob Value)
    (owner : String)
    (leaseSeconds : Int)
    (now : Instant) : OrderJob Value :=
  { job with
    status := .claimed
    leaseOwner := some owner
    leaseUntil := some (now + timedelta leaseSeconds)
    attempt := job.attempt + 1
    updatedAt := now }

/-- The record a claim leaves behind when the end of the lease overflows. -/
def seized (job : OrderJob Value) (owner : String) : OrderJob Value :=
  { job with
    status := .claimed
    leaseOwner := some owner }

/-- The test of a heartbeat; the three other calls look at the owner alone. -/
def ownsLease (job : OrderJob Value) (owner : String) : Bool :=
  decide (job.leaseOwner = some owner) && decide (job.status = .claimed)

/-- The record after a heartbeat; the clock is read twice. -/
def extended
    (job : OrderJob Value)
    (leaseSeconds : Int)
    (now later : Instant) : OrderJob Value :=
  { job with
    leaseUntil := some (now + timedelta leaseSeconds)
    updatedAt := later }

/-- The record after its owner completed the job. -/
def finished (job : OrderJob Value) (now : Instant) : OrderJob Value :=
  { job with
    status := .completed
    leaseOwner := none
    leaseUntil := none
    updatedAt := now }

/-- The record after its owner reported a failure. -/
def failed
    (job : OrderJob Value)
    (error : String)
    (now : Instant) : OrderJob Value :=
  { job with
    lastError := some error
    status :=
      if job.maxAttempts ≤ (job.attempt : Int) then
        .manualReview
      else
        .pending
    leaseOwner := none
    leaseUntil := none
    updatedAt := now }

/-- The record after its owner asked for a manual review. -/
def reviewed
    (job : OrderJob Value)
    (reason : String)
    (now : Instant) : OrderJob Value :=
  { job with
    status := .manualReview
    lastError := some reason
    leaseOwner := none
    leaseUntil := none
    updatedAt := now }

/-- The record after its expired lease was released. -/
def released (job : OrderJob Value) (now : Instant) : OrderJob Value :=
  { job with
    status := .pending
    leaseOwner := none
    leaseUntil := none
    updatedAt := now }

/-- What `recover_expired` does to one record. -/
def recovered (job : OrderJob Value) (now : Instant) : OrderJob Value :=
  if job.leaseExpired now then job.released now else job

section KeepsId

variable (job : OrderJob Value)

theorem taken_jobId (owner : String) (leaseSeconds : Int) (now : Instant) :
    (job.taken owner leaseSeconds now).jobId = job.jobId :=
  rfl

theorem seized_jobId (owner : String) :
    (job.seized owner).jobId = job.jobId :=
  rfl

theorem extended_jobId (leaseSeconds : Int) (now later : Instant) :
    (job.extended leaseSeconds now later).jobId = job.jobId :=
  rfl

theorem finished_jobId (now : Instant) :
    (job.finished now).jobId = job.jobId :=
  rfl

theorem failed_jobId (error : String) (now : Instant) :
    (job.failed error now).jobId = job.jobId :=
  rfl

theorem reviewed_jobId (reason : String) (now : Instant) :
    (job.reviewed reason now).jobId = job.jobId :=
  rfl

theorem recovered_jobId (now : Instant) :
    (job.recovered now).jobId = job.jobId := by
  simp only [recovered]
  split <;> rfl

end KeepsId

theorem leaseExpired_iff
    {job : OrderJob Value}
    {now : Instant} :
    job.leaseExpired now = true ↔
      job.status = .claimed ∧
        ∃ deadline, job.leaseUntil = some deadline ∧ deadline < now := by
  unfold leaseExpired
  cases job.status <;> cases job.leaseUntil <;> simp

theorem claimable_iff
    {job : OrderJob Value}
    {now : Instant} :
    job.claimable now = true ↔
      job.status = .pending ∨ job.leaseExpired now = true := by
  simp [claimable]

theorem ownsLease_iff
    {job : OrderJob Value}
    {owner : String} :
    job.ownsLease owner = true ↔
      job.leaseOwner = some owner ∧ job.status = .claimed := by
  simp [ownsLease]

end OrderJob

/-- The keyword arguments of `enqueue`. -/
structure EnqueueRequest (Value : Type) where
  tradeId : UUID
  jobType : String
  payload : Option (OrderedDict String Value)
  clientOrderId : Option String
  maxAttempts : Int

/-- What `enqueue` draws from its environment when it creates a job. -/
structure EnqueueDraw where
  jobId : UUID
  createdAt : Instant
  updatedAt : Instant

namespace EnqueueRequest

/-- `enqueue` with only its required arguments. -/
def default (tradeId : UUID) (jobType : String) : EnqueueRequest Value where
  tradeId := tradeId
  jobType := jobType
  payload := none
  clientOrderId := none
  maxAttempts := 5

/-- The client order id the idempotency check looks at: present, non-empty. -/
def dedupId? (request : EnqueueRequest Value) : Option String :=
  request.clientOrderId.filter fun clientOrderId => clientOrderId ≠ ""

/-- The pending job record a request creates. -/
def newJob
    (request : EnqueueRequest Value)
    (draw : EnqueueDraw) : OrderJob Value where
  jobId := draw.jobId
  tradeId := request.tradeId
  jobType := request.jobType
  status := .pending
  payload := request.payload.getD .empty
  clientOrderId := request.clientOrderId
  attempt := 0
  maxAttempts := request.maxAttempts
  leaseOwner := none
  leaseUntil := none
  createdAt := draw.createdAt
  updatedAt := draw.updatedAt
  lastError := none

end EnqueueRequest

/-- The job store; every record is filed under its own id. -/
structure InMemoryJobQueue (Value : Type) where
  jobs : OrderedDict UUID (OrderJob Value)
  keyed : ∀ jobId job, jobs.get? jobId = some job → job.jobId = jobId

namespace InMemoryJobQueue

@[ext] theorem ext
    {first second : InMemoryJobQueue Value}
    (same : first.jobs = second.jobs) :
    first = second := by
  cases first
  cases second
  cases same
  rfl

/-- `InMemoryJobQueue()`. -/
def empty : InMemoryJobQueue Value :=
  ⟨.empty, by simp⟩

/-- The record of a job id. -/
def get
    (queue : InMemoryJobQueue Value)
    (jobId : UUID) : Option (OrderJob Value) :=
  queue.jobs.get? jobId

/-- Jobs of one status, oldest first. -/
def listByStatus
    (queue : InMemoryJobQueue Value)
    (status : JobStatus) : List (OrderJob Value) :=
  queue.jobs.values.filter fun job => job.status = status

/-- The number of stored jobs. -/
def size (queue : InMemoryJobQueue Value) : Nat :=
  queue.jobs.size

/-- File a record under its own id. -/
def store
    (queue : InMemoryJobQueue Value)
    (job : OrderJob Value) : InMemoryJobQueue Value :=
  ⟨queue.jobs.set job.jobId job, by
    intro jobId found located
    rw [OrderedDict.get?_set] at located
    split at located
    · next sameId =>
        cases located
        exact sameId.symm
    · exact queue.keyed jobId found located⟩

/-- Mutate one stored record without touching its id. -/
def mutate
    (queue : InMemoryJobQueue Value)
    (jobId : UUID)
    (change : OrderJob Value → OrderJob Value)
    (keepsId : ∀ job, (change job).jobId = job.jobId) :
    InMemoryJobQueue Value :=
  ⟨queue.jobs.modify jobId change, by
    intro query found located
    rw [OrderedDict.get?_modify] at located
    split at located
    · obtain ⟨job, stored, rfl⟩ := Option.map_eq_some_iff.mp located
      rw [keepsId]
      exact queue.keyed query job stored
    · exact queue.keyed query found located⟩

/-- The oldest job that already carries a non-empty client order id. -/
def findClientOrder
    (queue : InMemoryJobQueue Value)
    (request : EnqueueRequest Value) : Option (OrderJob Value) :=
  match request.dedupId? with
  | none => none
  | some clientOrderId =>
      (queue.jobs.firstWhere? fun job =>
        job.clientOrderId = some clientOrderId).map Prod.snd

/-- Return the job of a client order id already used, or create a new one. -/
def enqueue
    (queue : InMemoryJobQueue Value)
    (request : EnqueueRequest Value)
    (draw : EnqueueDraw) :
    InMemoryJobQueue Value × OrderJob Value :=
  match queue.findClientOrder request with
  | some job => (queue, job)
  | none => (queue.store (request.newJob draw), request.newJob draw)

/-- The entry the claim scan stops at: the oldest claimable job. -/
def scan?
    (queue : InMemoryJobQueue Value)
    (now : Instant) : Option (UUID × OrderJob Value) :=
  queue.jobs.firstWhere? fun job => job.claimable now

/--
Hand the oldest claimable job to an owner under a new lease.  A lease that does
not end in the calendar raises after the owner has been written.
-/
def claim
    (queue : InMemoryJobQueue Value)
    (owner : String)
    (now : Instant)
    (leaseSeconds : Int := 30) :
    InMemoryJobQueue Value ×
      Except PyException (Option (OrderJob Value)) :=
  match queue.scan? now with
  | some (jobId, job) =>
      if EndsInCalendar now leaseSeconds then
        (queue.mutate jobId (fun job => job.taken owner leaseSeconds now)
          (fun job => job.taken_jobId owner leaseSeconds now),
          .ok (some (job.taken owner leaseSeconds now)))
      else
        (queue.mutate jobId (fun job => job.seized owner)
          (fun job => job.seized_jobId owner),
          .error .overflowError)
  | none => (queue, .ok none)

/--
The common shape of the four calls a worker makes on a job: refuse an unknown
job or one the call is not permitted on, otherwise mutate its record.
-/
def ownerCall
    (queue : InMemoryJobQueue Value)
    (jobId : UUID)
    (permits : OrderJob Value → Bool)
    (change : OrderJob Value → OrderJob Value)
    (keepsId : ∀ job, (change job).jobId = job.jobId) :
    InMemoryJobQueue Value × Bool :=
  match queue.get jobId with
  | none => (queue, false)
  | some job =>
      if permits job then
        (queue.mutate jobId change keepsId, true)
      else
        (queue, false)

/-- Whether a heartbeat of an owner on a job gets to compute a deadline. -/
def ownsLease
    (queue : InMemoryJobQueue Value)
    (jobId : UUID)
    (owner : String) : Bool :=
  (queue.get jobId).any fun job => job.ownsLease owner

/--
Extend a lease; besides the owner this call checks the status.  A lease that
does not end in the calendar raises before anything is written.
-/
def heartbeat
    (queue : InMemoryJobQueue Value)
    (jobId : UUID)
    (owner : String)
    (now later : Instant)
    (leaseSeconds : Int := 30) :
    InMemoryJobQueue Value × Except PyException Bool :=
  if queue.ownsLease jobId owner = true ∧
      ¬ EndsInCalendar now leaseSeconds then
    (queue, .error .overflowError)
  else
    let extension :=
      queue.ownerCall jobId
        (fun job => job.ownsLease owner)
        (fun job => job.extended leaseSeconds now later)
        (fun job => job.extended_jobId leaseSeconds now later)
    (extension.1, .ok extension.2)

/-- Finish a job. -/
def complete
    (queue : InMemoryJobQueue Value)
    (jobId : UUID)
    (owner : String)
    (now : Instant) :
    InMemoryJobQueue Value × Bool :=
  queue.ownerCall jobId
    (fun job => decide (job.leaseOwner = some owner))
    (fun job => job.finished now)
    (fun job => job.finished_jobId now)

/-- Report a failed attempt: retry while attempts are left, else review. -/
def fail
    (queue : InMemoryJobQueue Value)
    (jobId : UUID)
    (owner : String)
    (error : String)
    (now : Instant) :
    InMemoryJobQueue Value × Bool :=
  queue.ownerCall jobId
    (fun job => decide (job.leaseOwner = some owner))
    (fun job => job.failed error now)
    (fun job => job.failed_jobId error now)

/-- Park a job for manual review. -/
def markManualReview
    (queue : InMemoryJobQueue Value)
    (jobId : UUID)
    (owner : String)
    (reason : String)
    (now : Instant) :
    InMemoryJobQueue Value × Bool :=
  queue.ownerCall jobId
    (fun job => decide (job.leaseOwner = some owner))
    (fun job => job.reviewed reason now)
    (fun job => job.reviewed_jobId reason now)

/-- Release every expired lease; returns how many there were. -/
def recoverExpired
    (queue : InMemoryJobQueue Value)
    (now : Instant) :
    InMemoryJobQueue Value × Nat :=
  (⟨queue.jobs.mapValues fun job => job.recovered now, by
      intro jobId found located
      rw [OrderedDict.get?_mapValues] at located
      obtain ⟨job, stored, rfl⟩ := Option.map_eq_some_iff.mp located
      rw [OrderJob.recovered_jobId]
      exact queue.keyed jobId job stored⟩,
    queue.jobs.values.countP fun job => job.leaseExpired now)

section Lookup

variable (queue : InMemoryJobQueue Value)

@[simp] theorem get_empty (jobId : UUID) :
    (empty : InMemoryJobQueue Value).get jobId = none :=
  rfl

theorem get_store (job : OrderJob Value) (query : UUID) :
    (queue.store job).get query =
      if query = job.jobId then some job else queue.get query :=
  queue.jobs.get?_set job.jobId query job

theorem get_mutate
    (jobId query : UUID)
    (change : OrderJob Value → OrderJob Value)
    (keepsId : ∀ job, (change job).jobId = job.jobId) :
    (queue.mutate jobId change keepsId).get query =
      if query = jobId then
        (queue.get query).map change
      else
        queue.get query :=
  queue.jobs.get?_modify jobId query change

@[simp] theorem get_recoverExpired (now : Instant) (query : UUID) :
    (queue.recoverExpired now).1.get query =
      (queue.get query).map fun job => job.recovered now :=
  queue.jobs.get?_mapValues _ query

/-- A record is filed under its own id. -/
theorem jobId_of_get
    {queue : InMemoryJobQueue Value}
    {jobId : UUID}
    {job : OrderJob Value}
    (found : queue.get jobId = some job) :
    job.jobId = jobId :=
  queue.keyed jobId job found

end Lookup

end InMemoryJobQueue

end SafeSignalTrader
