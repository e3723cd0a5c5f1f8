import SafeSignalTrader.QueueMemory
import SafeSignalTrader.RunSemantics

/-!
# Queue runs and the moves of one job

Runs of the queue are runs of a deterministic machine whose operations are the
seven public methods.  `JobMove` lists everything one step can do to the
record of one job; every property of a job over a whole run is derived from
that list and not from the methods themselves.
-/

namespace SafeSignalTrader

open RunSemantics

variable {Value : Type}

/-- One call of a public method, with the values its environment supplies. -/
inductive QueueOp (Value : Type) where
  | enqueue (request : EnqueueRequest Value) (draw : EnqueueDraw)
  | claim (owner : String) (leaseSeconds : Int) (now : Instant)
  | heartbeat
      (jobId : UUID) (owner : String) (leaseSeconds : Int)
      (now later : Instant)
  | complete (jobId : UUID) (owner : String) (now : Instant)
  | fail (jobId : UUID) (owner error : String) (now : Instant)
  | markManualReview (jobId : UUID) (owner reason : String) (now : Instant)
  | recoverExpired (now : Instant)

/-- What a method returns or raises. -/
inductive QueueReply (Value : Type) where
  | enqueued (job : OrderJob Value)
  | claimed (job : Option (OrderJob Value))
  | answered (accepted : Bool)
  | recovered (count : Nat)
  | raised (exception : PyException)

/-- A call a worker makes on a job it believes to own. -/
structure OwnerCall where
  jobId : UUID
  owner : String
  now : Instant
  deriving Repr, DecidableEq

namespace QueueOp

/-- The owner call made by heartbeat, complete, fail and manual review. -/
def ownerCall? : QueueOp Value → Option OwnerCall
  | .heartbeat jobId owner _ now _ => some ⟨jobId, owner, now⟩
  | .complete jobId owner now => some ⟨jobId, owner, now⟩
  | .fail jobId owner _ now => some ⟨jobId, owner, now⟩
  | .markManualReview jobId owner _ now => some ⟨jobId, owner, now⟩
  | _ => none

/-- The worker that makes the call, if a worker makes it. -/
def worker? : QueueOp Value → Option String
  | .claim owner _ _ => some owner
  | op => op.ownerCall?.map OwnerCall.owner

/-- The clock readings of a call, in the order they are taken. -/
def readings : QueueOp Value → List Instant
  | .enqueue _ draw => [draw.createdAt, draw.updatedAt]
  | .claim _ _ now => [now]
  | .heartbeat _ _ _ now later => [now, later]
  | .complete _ _ now => [now]
  | .fail _ _ _ now => [now]
  | .markManualReview _ _ _ now => [now]
  | .recoverExpired now => [now]

/-- Whether a call is `recover_expired`. -/
def isRecovery : QueueOp Value → Bool
  | .recoverExpired _ => true
  | _ => false

end QueueOp

namespace QueueReply

/-- The reply of a claim. -/
def ofClaim : Except PyException (Option (OrderJob Value)) → QueueReply Value
  | .ok job => .claimed job
  | .error exception => .raised exception

/-- The reply of a heartbeat. -/
def ofHeartbeat : Except PyException Bool → QueueReply Value
  | .ok accepted => .answered accepted
  | .error exception => .raised exception

/-- The reply of a claim that returned the job with this id. -/
def HandsOut (reply : QueueReply Value) (jobId : UUID) : Prop :=
  ∃ job, reply = .claimed (some job) ∧ job.jobId = jobId

/-- The id of the job a claim returned. -/
def claimedId? : QueueReply Value → Option UUID
  | .claimed job => job.map OrderJob.jobId
  | _ => none

/-- Whether an owner call was answered with `True`. -/
def accepted : QueueReply Value → Bool
  | .answered answer => answer
  | _ => false

/-- Handing out a job is returning its id from a claim. -/
theorem handsOut_iff
    {reply : QueueReply Value}
    {jobId : UUID} :
    reply.HandsOut jobId ↔ reply.claimedId? = some jobId := by
  cases reply <;> simp [HandsOut, claimedId?]

end QueueReply

namespace InMemoryJobQueue

/-- Perform one call. -/
def step
    (queue : InMemoryJobQueue Value) :
    QueueOp Value → InMemoryJobQueue Value × QueueReply Value
  | .enqueue request draw =>
      ((queue.enqueue request draw).1,
        .enqueued (queue.enqueue request draw).2)
  | .claim owner leaseSeconds now =>
      ((queue.claim owner now leaseSeconds).1,
        .ofClaim (queue.claim owner now leaseSeconds).2)
  | .heartbeat jobId owner leaseSeconds now later =>
      ((queue.heartbeat jobId owner now later leaseSeconds).1,
        .ofHeartbeat (queue.heartbeat jobId owner now later leaseSeconds).2)
  | .complete jobId owner now =>
      ((queue.complete jobId owner now).1,
        .answered (queue.complete jobId owner now).2)
  | .fail jobId owner error now =>
      ((queue.fail jobId owner error now).1,
        .answered (queue.fail jobId owner error now).2)
  | .markManualReview jobId owner reason now =>
      ((queue.markManualReview jobId owner reason now).1,
        .answered (queue.markManualReview jobId owner reason now).2)
  | .recoverExpired now =>
      ((queue.recoverExpired now).1,
        .recovered (queue.recoverExpired now).2)

/-- `uuid4` draws an id no stored job has, whenever it is called. -/
def DrawsFresh (queue : InMemoryJobQueue Value) : QueueOp Value → Prop
  | .enqueue request draw =>
      queue.findClientOrder request = none → queue.get draw.jobId = none
  | _ => True

end InMemoryJobQueue

namespace InMemoryJobQueue

instance decidableDrawsFresh
    (queue : InMemoryJobQueue Value) :
    ∀ op, Decidable (queue.DrawsFresh op)
  | .enqueue request draw =>
      inferInstanceAs
        (Decidable (queue.findClientOrder request = none →
          queue.get draw.jobId = none))
  | .claim .. => isTrue trivial
  | .heartbeat .. => isTrue trivial
  | .complete .. => isTrue trivial
  | .fail .. => isTrue trivial
  | .markManualReview .. => isTrue trivial
  | .recoverExpired .. => isTrue trivial

end InMemoryJobQueue

/-- The queue as a machine; the only assumption is that `uuid4` is fresh. -/
def queueMachine :
    Machine (InMemoryJobQueue Value) (QueueOp Value) (QueueReply Value) where
  step := InMemoryJobQueue.step
  admits := InMemoryJobQueue.DrawsFresh

instance decidableQueueAdmits
    (queue : InMemoryJobQueue Value)
    (op : QueueOp Value) :
    Decidable (queueMachine.admits queue op) :=
  InMemoryJobQueue.decidableDrawsFresh queue op

namespace InMemoryJobQueue

/-- A claim that finds a job asks for a lease that ends in the calendar. -/
def ClaimsInCalendar (queue : InMemoryJobQueue Value) : QueueOp Value → Prop
  | .claim _ leaseSeconds now =>
      (queue.scan? now).isSome = true → EndsInCalendar now leaseSeconds
  | _ => True

/-- A heartbeat of an owner asks for a lease that ends in the calendar. -/
def ExtendsInCalendar (queue : InMemoryJobQueue Value) : QueueOp Value → Prop
  | .heartbeat jobId owner leaseSeconds now _ =>
      queue.ownsLease jobId owner = true → EndsInCalendar now leaseSeconds
  | _ => True

instance decidableClaimsInCalendar
    (queue : InMemoryJobQueue Value) :
    ∀ op, Decidable (queue.ClaimsInCalendar op)
  | .claim _ leaseSeconds now =>
      inferInstanceAs (Decidable ((queue.scan? now).isSome = true →
        EndsInCalendar now leaseSeconds))
  | .enqueue .. => isTrue trivial
  | .heartbeat .. => isTrue trivial
  | .complete .. => isTrue trivial
  | .fail .. => isTrue trivial
  | .markManualReview .. => isTrue trivial
  | .recoverExpired .. => isTrue trivial

instance decidableExtendsInCalendar
    (queue : InMemoryJobQueue Value) :
    ∀ op, Decidable (queue.ExtendsInCalendar op)
  | .heartbeat jobId owner leaseSeconds now _ =>
      inferInstanceAs (Decidable (queue.ownsLease jobId owner = true →
        EndsInCalendar now leaseSeconds))
  | .enqueue .. => isTrue trivial
  | .claim .. => isTrue trivial
  | .complete .. => isTrue trivial
  | .fail .. => isTrue trivial
  | .markManualReview .. => isTrue trivial
  | .recoverExpired .. => isTrue trivial

end InMemoryJobQueue

/-- A claim that may take the job of a record does not overflow. -/
def QueueOp.CompletesOn
    (op : QueueOp Value)
    (record : Option (OrderJob Value)) : Prop :=
  match op with
  | .claim _ leaseSeconds now =>
      ∀ job, record = some job → job.claimable now = true →
        EndsInCalendar now leaseSeconds
  | _ => True

/-- A claim in the calendar does not overflow on any record. -/
theorem InMemoryJobQueue.ClaimsInCalendar.completesOn
    {queue : InMemoryJobQueue Value}
    {op : QueueOp Value}
    (inCalendar : queue.ClaimsInCalendar op)
    (jobId : UUID) :
    op.CompletesOn (queue.get jobId) := by
  cases op with
  | claim owner leaseSeconds now =>
      intro job found free
      apply inCalendar
      cases scan : queue.scan? now with
      | none =>
          have refused :=
            OrderedDict.firstWhere?_eq_none_iff.mp scan jobId job found
          rw [free] at refused
          cases refused
      | some entry =>
          rfl
  | _ =>
      trivial

/-- Queue states reachable from the empty queue. -/
abbrev QueueReachable (queue : InMemoryJobQueue Value) : Prop :=
  queueMachine.Reachable .empty queue

/-- The record of one executed queue call. -/
abbrev QueueRecord (Value : Type) :=
  Executed (InMemoryJobQueue Value) (QueueOp Value) (QueueReply Value)

/-- Everything one step of the queue can do to the record of one job. -/
inductive JobMove (jobId : UUID) :
    QueueOp Value → QueueReply Value →
      Option (OrderJob Value) → Option (OrderJob Value) → Prop where
  | untouched
      {op : QueueOp Value}
      {reply : QueueReply Value}
      {record : Option (OrderJob Value)}
      (notHandedOut : ¬ reply.HandsOut jobId)
      (notAccepted : ∀ call,
        op.ownerCall? = some call → call.jobId = jobId →
          reply = .answered false) :
      JobMove jobId op reply record record
  | created
      (request : EnqueueRequest Value)
      (draw : EnqueueDraw)
      (drawn : draw.jobId = jobId) :
      JobMove jobId (.enqueue request draw)
        (.enqueued (request.newJob draw))
        none (some (request.newJob draw))
  | taken
      (job : OrderJob Value)
      (owner : String) (leaseSeconds : Int) (now : Instant)
      (filed : job.jobId = jobId)
      (free : job.claimable now = true)
      (ends : EndsInCalendar now leaseSeconds) :
      JobMove jobId (.claim owner leaseSeconds now)
        (.claimed (some (job.taken owner leaseSeconds now)))
        (some job) (some (job.taken owner leaseSeconds now))
  | seized
      (job : OrderJob Value)
      (owner : String) (leaseSeconds : Int) (now : Instant)
      (free : job.claimable now = true)
      (overflows : ¬ EndsInCalendar now leaseSeconds) :
      JobMove jobId (.claim owner leaseSeconds now)
        (.raised .overflowError)
        (some job) (some (job.seized owner))
  | extended
      (job : OrderJob Value)
      (owner : String) (leaseSeconds : Int) (now later : Instant)
      (owned : job.leaseOwner = some owner)
      (claimed : job.status = .claimed)
      (ends : EndsInCalendar now leaseSeconds) :
      JobMove jobId (.heartbeat jobId owner leaseSeconds now later)
        (.answered true)
        (some job) (some (job.extended leaseSeconds now later))
  | unextended
      (job : OrderJob Value)
      (owner : String) (leaseSeconds : Int) (now later : Instant)
      (owned : job.leaseOwner = some owner)
      (claimed : job.status = .claimed)
      (overflows : ¬ EndsInCalendar now leaseSeconds) :
      JobMove jobId (.heartbeat jobId owner leaseSeconds now later)
        (.raised .overflowError)
        (some job) (some job)
  | finished
      (job : OrderJob Value)
      (owner : String) (now : Instant)
      (owned : job.leaseOwner = some owner) :
      JobMove jobId (.complete jobId owner now) (.answered true)
        (some job) (some (job.finished now))
  | failed
      (job : OrderJob Value)
      (owner error : String) (now : Instant)
      (owned : job.leaseOwner = some owner) :
      JobMove jobId (.fail jobId owner error now) (.answered true)
        (some job) (some (job.failed error now))
  | reviewed
      (job : OrderJob Value)
      (owner reason : String) (now : Instant)
      (owned : job.leaseOwner = some owner) :
      JobMove jobId (.markManualReview jobId owner reason now)
        (.answered true)
        (some job) (some (job.reviewed reason now))
  | released
      (job : OrderJob Value)
      (now : Instant) (count : Nat)
      (expired : job.leaseExpired now = true) :
      JobMove jobId (.recoverExpired now) (.recovered count)
        (some job) (some (job.released now))

namespace InMemoryJobQueue

section OwnerCalls

variable {queue : InMemoryJobQueue Value}
variable {jobId : UUID}
variable {permits : OrderJob Value → Bool}
variable {change : OrderJob Value → OrderJob Value}
variable {keepsId : ∀ job, (change job).jobId = job.jobId}

/-- An owner call is accepted exactly on a stored job that permits it. -/
theorem ownerCall_accepted_iff :
    (queue.ownerCall jobId permits change keepsId).2 = true ↔
      ∃ job, queue.get jobId = some job ∧ permits job = true := by
  unfold ownerCall
  cases found : queue.get jobId with
  | none =>
      simp
  | some job =>
      cases permitted : permits job <;> simp [permitted]

/-- The owner of a lease is whose heartbeat the owner call accepts. -/
theorem ownsLease_iff_accepted
    {queue : InMemoryJobQueue Value}
    {jobId : UUID}
    {owner : String}
    (change : OrderJob Value → OrderJob Value)
    (keepsId : ∀ job, (change job).jobId = job.jobId) :
    queue.ownsLease jobId owner = true ↔
      (queue.ownerCall jobId (fun job => job.ownsLease owner) change
        keepsId).2 = true := by
  rw [ownerCall_accepted_iff, ownsLease, Option.any_eq_true]

/-- A refused owner call leaves the whole queue as it was. -/
theorem ownerCall_refused
    (refused : (queue.ownerCall jobId permits change keepsId).2 = false) :
    (queue.ownerCall jobId permits change keepsId).1 = queue := by
  unfold ownerCall at refused ⊢
  cases found : queue.get jobId with
  | none =>
      rfl
  | some job =>
      cases permitted : permits job with
      | false =>
          simp [permitted]
      | true =>
          simp [found, permitted] at refused

/-- The heartbeat of a caller that owns no lease is refused. -/
theorem ownerCall_of_not_ownsLease
    {queue : InMemoryJobQueue Value}
    {jobId : UUID}
    {owner : String}
    (change : OrderJob Value → OrderJob Value)
    (keepsId : ∀ job, (change job).jobId = job.jobId)
    (unowned : queue.ownsLease jobId owner = false) :
    queue.ownerCall jobId (fun job => job.ownsLease owner) change keepsId =
      (queue, false) := by
  have refused :
      (queue.ownerCall jobId (fun job => job.ownsLease owner) change
        keepsId).2 = false := by
    rw [← Bool.not_eq_true, ← ownsLease_iff_accepted, unowned]
    exact Bool.false_ne_true
  exact Prod.ext (ownerCall_refused refused) refused

/-- What an owner call does to the record of any job. -/
theorem ownerCall_cases
    (queue : InMemoryJobQueue Value)
    (jobId query : UUID)
    (permits : OrderJob Value → Bool)
    (change : OrderJob Value → OrderJob Value)
    (keepsId : ∀ job, (change job).jobId = job.jobId) :
    ((queue.ownerCall jobId permits change keepsId).2 = false ∧
        (queue.ownerCall jobId permits change keepsId).1.get query =
          queue.get query) ∨
      ((queue.ownerCall jobId permits change keepsId).2 = true ∧
        query ≠ jobId ∧
        (queue.ownerCall jobId permits change keepsId).1.get query =
          queue.get query) ∨
      ((queue.ownerCall jobId permits change keepsId).2 = true ∧
        query = jobId ∧
        ∃ job, queue.get query = some job ∧ permits job = true ∧
          (queue.ownerCall jobId permits change keepsId).1.get query =
            some (change job)) := by
  cases answer : (queue.ownerCall jobId permits change keepsId).2 with
  | false =>
      exact Or.inl ⟨rfl, by rw [ownerCall_refused answer]⟩
  | true =>
      obtain ⟨job, found, permitted⟩ := ownerCall_accepted_iff.mp answer
      have moved :
          (queue.ownerCall jobId permits change keepsId).1 =
            queue.mutate jobId change keepsId := by
        simp [ownerCall, found, permitted]
      rw [moved, get_mutate]
      by_cases sameId : query = jobId
      · subst sameId
        exact Or.inr (Or.inr ⟨rfl, rfl, job, found, permitted,
          by simp [found]⟩)
      · exact Or.inr (Or.inl ⟨rfl, sameId, by simp [sameId]⟩)

end OwnerCalls

/-- The id of the job a call creates, if it creates one. -/
def createdId?
    (queue : InMemoryJobQueue Value) :
    QueueOp Value → Option UUID
  | .enqueue request draw =>
      match queue.findClientOrder request with
      | some _ => none
      | none => some draw.jobId
  | _ => none

/-- An owner call keeps the key list. -/
theorem keys_ownerCall
    (queue : InMemoryJobQueue Value)
    (jobId : UUID)
    (permits : OrderJob Value → Bool)
    (change : OrderJob Value → OrderJob Value)
    (keepsId : ∀ job, (change job).jobId = job.jobId) :
    (queue.ownerCall jobId permits change keepsId).1.jobs.keys =
      queue.jobs.keys := by
  cases answer : (queue.ownerCall jobId permits change keepsId).2 with
  | false =>
      rw [ownerCall_refused answer]
  | true =>
      obtain ⟨job, found, permitted⟩ := ownerCall_accepted_iff.mp answer
      simp only [ownerCall, found, permitted, ↓reduceIte]
      exact queue.jobs.keys_modify jobId change

/-- A step keeps the entries where they are; a job it creates goes last. -/
theorem keys_step
    {queue : InMemoryJobQueue Value}
    {op : QueueOp Value}
    (fresh : queue.DrawsFresh op) :
    (queue.step op).1.jobs.keys =
      queue.jobs.keys ++ (queue.createdId? op).toList := by
  cases op with
  | enqueue request draw =>
      cases known : queue.findClientOrder request with
      | some job =>
          simp [step, enqueue, createdId?, known]
      | none =>
          have absent : queue.jobs.get? draw.jobId = none := fresh known
          simp only [step, enqueue, createdId?, known, Option.toList_some]
          exact queue.jobs.keys_set_of_fresh _ absent
  | claim owner leaseSeconds now =>
      have kept :
          (queue.claim owner now leaseSeconds).1.jobs.keys =
            queue.jobs.keys := by
        unfold claim
        split
        · split
          · exact queue.jobs.keys_modify _ _
          · exact queue.jobs.keys_modify _ _
        · rfl
      simpa [step, createdId?] using kept
  | heartbeat jobId owner leaseSeconds now later =>
      have kept :
          (queue.heartbeat jobId owner now later leaseSeconds).1.jobs.keys =
            queue.jobs.keys := by
        unfold heartbeat
        split
        · rfl
        · exact queue.keys_ownerCall jobId _ _ _
      simpa [step, createdId?] using kept
  | complete jobId owner now =>
      exact (queue.keys_ownerCall jobId _ _ _).trans
        (List.append_nil _).symm
  | fail jobId owner error now =>
      exact (queue.keys_ownerCall jobId _ _ _).trans
        (List.append_nil _).symm
  | markManualReview jobId owner reason now =>
      exact (queue.keys_ownerCall jobId _ _ _).trans
        (List.append_nil _).symm
  | recoverExpired now =>
      simp [step, createdId?, recoverExpired]

/-- One owner call moves a record by its own move or not at all. -/
private theorem ownerCall_moves
    {queue : InMemoryJobQueue Value}
    {jobId query : UUID}
    {permits : OrderJob Value → Bool}
    {change : OrderJob Value → OrderJob Value}
    {keepsId : ∀ job, (change job).jobId = job.jobId}
    {op : QueueOp Value}
    {owner : String}
    {now : Instant}
    (calls : op.ownerCall? = some ⟨jobId, owner, now⟩)
    (ownMove : ∀ job, permits job = true → query = jobId →
      JobMove query op (.answered true) (some job) (some (change job))) :
    JobMove query op
      (.answered (queue.ownerCall jobId permits change keepsId).2)
      (queue.get query)
      ((queue.ownerCall jobId permits change keepsId).1.get query) := by
  have notHandedOut :
      ∀ accepted,
        ¬ (QueueReply.answered accepted : QueueReply Value).HandsOut query := by
    intro accepted handedOut
    obtain ⟨job, impossible, _⟩ := handedOut
    cases impossible
  rcases ownerCall_cases queue jobId query permits change keepsId with
    ⟨refused, same⟩ | ⟨accepted, elsewhere, same⟩ |
      ⟨accepted, here, job, found, permitted, moved⟩
  · rw [refused, same]
    exact .untouched (notHandedOut false) fun _ _ _ => rfl
  · rw [accepted, same]
    refine .untouched (notHandedOut true) ?_
    intro call called sameId
    rw [calls, Option.some.injEq] at called
    subst called
    exact (elsewhere sameId.symm).elim
  · rw [accepted, found, moved]
    exact ownMove job permitted here

/-- Enqueueing leaves a record alone or creates it. -/
private theorem enqueue_moves
    {queue : InMemoryJobQueue Value}
    {request : EnqueueRequest Value}
    {draw : EnqueueDraw}
    (fresh : queue.DrawsFresh (.enqueue request draw))
    (query : UUID) :
    JobMove query (.enqueue request draw)
      (.enqueued (queue.enqueue request draw).2)
      (queue.get query)
      ((queue.enqueue request draw).1.get query) := by
  have notHandedOut :
      ∀ job,
        ¬ (QueueReply.enqueued job : QueueReply Value).HandsOut query := by
    intro job handedOut
    obtain ⟨other, impossible, _⟩ := handedOut
    cases impossible
  have notCalled :
      ∀ job call,
        (QueueOp.enqueue request draw).ownerCall? = some call →
          call.jobId = query →
            QueueReply.enqueued job =
              (QueueReply.answered false : QueueReply Value) := by
    intro job call called
    cases called
  cases known : queue.findClientOrder request with
  | some job =>
      simp only [enqueue, known]
      exact .untouched (notHandedOut job) (notCalled job)
  | none =>
      simp only [enqueue, known, get_store]
      by_cases drawn : query = draw.jobId
      · have absent : queue.get query = none := by
          rw [drawn]
          exact fresh known
        rw [absent, if_pos (by exact drawn)]
        exact .created request draw drawn.symm
      · rw [if_neg (by exact drawn)]
        exact .untouched (notHandedOut _) (notCalled _)

/-- A raised reply hands out no job. -/
private theorem not_handsOut_raised
    (exception : PyException)
    (query : UUID) :
    ¬ (QueueReply.raised exception : QueueReply Value).HandsOut query := by
  intro handedOut
  obtain ⟨job, impossible, _⟩ := handedOut
  cases impossible

/--
Claiming takes the job the scan stops at, or writes its owner and raises, and
leaves every other record.
-/
private theorem claim_moves
    (queue : InMemoryJobQueue Value)
    (owner : String)
    (leaseSeconds : Int)
    (now : Instant)
    (query : UUID) :
    JobMove query (.claim owner leaseSeconds now)
      (.ofClaim (queue.claim owner now leaseSeconds).2)
      (queue.get query)
      ((queue.claim owner now leaseSeconds).1.get query) := by
  have notCalled :
      ∀ reply call,
        (QueueOp.claim owner leaseSeconds now :
            QueueOp Value).ownerCall? = some call →
          call.jobId = query →
            reply = (QueueReply.answered false : QueueReply Value) := by
    intro reply call called
    cases called
  cases scan : queue.scan? now with
  | none =>
      simp only [claim, scan]
      refine .untouched ?_ (notCalled _)
      intro handedOut
      obtain ⟨job, impossible, _⟩ := handedOut
      cases impossible
  | some entry =>
      obtain ⟨jobId, job⟩ := entry
      obtain ⟨found, free⟩ := OrderedDict.get?_of_firstWhere? scan
      have filed : job.jobId = jobId := queue.keyed jobId job found
      by_cases ends : EndsInCalendar now leaseSeconds
      · simp only [claim, scan, if_pos ends, get_mutate]
        by_cases here : query = jobId
        · subst here
          rw [if_pos rfl, show queue.get query = some job from found]
          exact .taken job owner leaseSeconds now filed free ends
        · rw [if_neg here]
          refine .untouched ?_ (notCalled _)
          intro handedOut
          obtain ⟨other, sameJob, sameId⟩ := handedOut
          cases sameJob
          exact here (sameId.symm.trans filed)
      · simp only [claim, scan, if_neg ends, get_mutate]
        by_cases here : query = jobId
        · subst here
          rw [if_pos rfl, show queue.get query = some job from found]
          exact .seized job owner leaseSeconds now free ends
        · rw [if_neg here]
          exact .untouched (not_handsOut_raised _ query) (notCalled _)

/-- A heartbeat is an owner call, unless its caller's new lease overflows. -/
private theorem heartbeat_moves
    (queue : InMemoryJobQueue Value)
    (jobId : UUID)
    (owner : String)
    (leaseSeconds : Int)
    (now later : Instant)
    (query : UUID) :
    JobMove query (.heartbeat jobId owner leaseSeconds now later)
      (.ofHeartbeat (queue.heartbeat jobId owner now later leaseSeconds).2)
      (queue.get query)
      ((queue.heartbeat jobId owner now later leaseSeconds).1.get query) := by
  by_cases overflows :
      queue.ownsLease jobId owner = true ∧ ¬ EndsInCalendar now leaseSeconds
  · simp only [heartbeat, if_pos overflows]
    obtain ⟨job, found, owns⟩ :=
      (Option.any_eq_true _ _).mp overflows.1
    by_cases here : query = jobId
    · subst here
      obtain ⟨owned, claimed⟩ := OrderJob.ownsLease_iff.mp owns
      rw [show queue.get query = some job from found]
      exact .unextended job owner leaseSeconds now later owned claimed
        overflows.2
    · refine .untouched (not_handsOut_raised _ query) ?_
      intro call called sameId
      cases called
      exact (here sameId.symm).elim
  · simp only [heartbeat, if_neg overflows]
    by_cases ends : EndsInCalendar now leaseSeconds
    · apply ownerCall_moves rfl
      intro job permitted here
      subst here
      obtain ⟨owned, claimed⟩ := OrderJob.ownsLease_iff.mp permitted
      exact .extended job owner leaseSeconds now later owned claimed ends
    · -- Nobody's lease is extended, so the call is refused.
      have unowned : queue.ownsLease jobId owner = false := by
        simpa [ends] using overflows
      rw [ownerCall_of_not_ownsLease _ _ unowned]
      refine .untouched ?_ fun _ _ _ => rfl
      intro handedOut
      obtain ⟨job, impossible, _⟩ := handedOut
      cases impossible

/-- Recovery releases exactly the expired records. -/
private theorem recoverExpired_moves
    (queue : InMemoryJobQueue Value)
    (now : Instant)
    (query : UUID) :
    JobMove query (.recoverExpired now)
      (.recovered (queue.recoverExpired now).2)
      (queue.get query)
      ((queue.recoverExpired now).1.get query) := by
  have notHandedOut :
      ∀ count,
        ¬ (QueueReply.recovered count : QueueReply Value).HandsOut query := by
    intro count handedOut
    obtain ⟨job, impossible, _⟩ := handedOut
    cases impossible
  rw [get_recoverExpired]
  cases found : queue.get query with
  | none =>
      exact .untouched (notHandedOut _) fun _ called => by cases called
  | some job =>
      simp only [Option.map_some, OrderJob.recovered]
      by_cases expired : job.leaseExpired now = true
      · rw [if_pos expired]
        exact .released job now _ expired
      · rw [if_neg expired]
        exact .untouched (notHandedOut _) fun _ called => by cases called

/-- Every step of the queue moves every record by one of the listed moves. -/
theorem step_moves
    {queue : InMemoryJobQueue Value}
    {op : QueueOp Value}
    (fresh : queue.DrawsFresh op)
    (jobId : UUID) :
    JobMove jobId op (queue.step op).2
      (queue.get jobId) ((queue.step op).1.get jobId) := by
  cases op with
  | enqueue request draw =>
      exact enqueue_moves fresh jobId
  | claim owner leaseSeconds now =>
      exact claim_moves queue owner leaseSeconds now jobId
  | heartbeat target owner leaseSeconds now later =>
      exact heartbeat_moves queue target owner leaseSeconds now later jobId
  | complete target owner now =>
      apply ownerCall_moves rfl
      intro job permitted here
      subst here
      exact .finished job owner now (of_decide_eq_true permitted)
  | fail target owner error now =>
      apply ownerCall_moves rfl
      intro job permitted here
      subst here
      exact .failed job owner error now (of_decide_eq_true permitted)
  | markManualReview target owner reason now =>
      apply ownerCall_moves rfl
      intro job permitted here
      subst here
      exact .reviewed job owner reason now (of_decide_eq_true permitted)
  | recoverExpired now =>
      exact recoverExpired_moves queue now jobId

end InMemoryJobQueue

/-- The move a recorded step made with the record of a job. -/
theorem queueMachine_moves
    {queue : InMemoryJobQueue Value}
    {op : QueueOp Value}
    (fresh : queueMachine.admits queue op)
    (jobId : UUID) :
    JobMove jobId op (queueMachine.step queue op).2
      (queue.get jobId) ((queueMachine.step queue op).1.get jobId) :=
  InMemoryJobQueue.step_moves fresh jobId

end SafeSignalTrader
