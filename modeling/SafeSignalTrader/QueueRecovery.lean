import SafeSignalTrader.QueueJobMoves

/-!
# Eager and lazy lease recovery

An expired lease is taken back either by a recovery sweep or by the claim that
takes the job over.  A run and the same run without its sweeps are related by
a simulation: each record is the same on both sides, or the sweep has already
released the record that the other side still holds under an expired lease.

The relation survives because the claim scan stops at a record of either form,
because no worker calls on a job after the last lease it obtained on that job
has expired, and because no claim is raised after it wrote the owner: such a
claim leaves the old deadline where there was one.
-/

namespace SafeSignalTrader

open RunSemantics

variable {Value : Type}

/-- What a caller compares of a reply: a claim by job id and attempt number. -/
inductive QueueObservation where
  | enqueued (jobId : UUID)
  | claimed (job : Option (UUID × Nat))
  | answered (accepted : Bool)
  | recovered
  | raised
  deriving Repr, DecidableEq

/-- The observation of a reply; the count of a sweep is not compared. -/
def QueueReply.observed : QueueReply Value → QueueObservation
  | .enqueued job => .enqueued job.jobId
  | .claimed job => .claimed (job.map fun job => (job.jobId, job.attempt))
  | .answered accepted => .answered accepted
  | .recovered _ => .recovered
  | .raised _ => .raised

/-- Alike replies hand out the same job. -/
theorem QueueReply.claimedId?_of_observed
    {first second : QueueReply Value}
    (alike : first.observed = second.observed) :
    first.claimedId? = second.claimedId? := by
  cases first with
  | claimed job =>
      cases second with
      | claimed other =>
          cases job <;> cases other <;>
            simp_all [observed, claimedId?]
      | _ =>
          cases alike
  | _ =>
      cases second <;> first | rfl | cases alike

/-- Alike replies give the same answer to an owner call. -/
theorem QueueReply.accepted_of_observed
    {first second : QueueReply Value}
    (alike : first.observed = second.observed) :
    first.accepted = second.accepted := by
  cases first with
  | answered answer =>
      cases second with
      | answered other =>
          simpa [observed, accepted] using alike
      | _ =>
          cases alike
  | _ =>
      cases second <;> first | rfl | cases alike

/-- The deadline of a lease that one step granted to a worker on a job. -/
def leaseGranted?
    (jobId : UUID)
    (owner : String)
    (executed : QueueRecord Value) : Option Instant :=
  match executed.op with
  | .claim worker leaseSeconds now =>
      if worker = owner ∧ executed.reply.claimedId? = some jobId then
        some (now + timedelta leaseSeconds)
      else
        none
  | .heartbeat target worker leaseSeconds now _ =>
      if target = jobId ∧ worker = owner ∧
          executed.reply.accepted = true then
        some (now + timedelta leaseSeconds)
      else
        none
  | _ => none

/-- The deadline of the most recent lease a worker obtained on a job. -/
def lastLease?
    (jobId : UUID)
    (owner : String)
    (records : List (QueueRecord Value)) : Option Instant :=
  (records.filterMap (leaseGranted? jobId owner)).getLast?

theorem lastLease?_append_none
    {jobId : UUID}
    {owner : String}
    {past : List (QueueRecord Value)}
    {executed : QueueRecord Value}
    (quiet : leaseGranted? jobId owner executed = none) :
    lastLease? jobId owner (past ++ [executed]) =
      lastLease? jobId owner past := by
  simp [lastLease?, List.filterMap_append, quiet]

theorem lastLease?_append_some
    {jobId : UUID}
    {owner : String}
    {past : List (QueueRecord Value)}
    {executed : QueueRecord Value}
    {deadline : Instant}
    (granted : leaseGranted? jobId owner executed = some deadline) :
    lastLease? jobId owner (past ++ [executed]) = some deadline := by
  simp [lastLease?, List.filterMap_append, granted]

/-- The clock readings of a run, in the order they were taken. -/
def readingsOf (records : List (QueueRecord Value)) : List Instant :=
  records.flatMap fun executed => executed.op.readings

theorem readingsOf_append
    (past later : List (QueueRecord Value)) :
    readingsOf (past ++ later) = readingsOf past ++ readingsOf later :=
  List.flatMap_append

theorem readingsOf_append_singleton
    (past : List (QueueRecord Value))
    (executed : QueueRecord Value) :
    readingsOf (past ++ [executed]) =
      readingsOf past ++ executed.op.readings := by
  simp [readingsOf]

/-- The clock readings of a run are those of its calls. -/
theorem readingsOf_trace
    (queue : InMemoryJobQueue Value)
    (ops : List (QueueOp Value)) :
    readingsOf (queueMachine.trace queue ops) =
      ops.flatMap QueueOp.readings := by
  calc
    readingsOf (queueMachine.trace queue ops) =
        ((queueMachine.trace queue ops).map Executed.op).flatMap
          QueueOp.readings := (List.flatMap_map ..).symm
    _ = ops.flatMap QueueOp.readings := by
      rw [queueMachine.trace_map_op]

/--
No worker calls on a job at a time when the most recent lease it obtained on
that job has already expired.
-/
def Punctual (records : List (QueueRecord Value)) : Prop :=
  ∀ index, (inRange : index < records.length) →
    ∀ call ∈ records[index].op.ownerCall?,
      ∀ deadline ∈
        lastLease? call.jobId call.owner (records.take index),
        call.now ≤ deadline

instance decidablePunctual
    (records : List (QueueRecord Value)) :
    Decidable (Punctual records) :=
  inferInstanceAs (Decidable (∀ index, (inRange : index < records.length) →
    ∀ call ∈ records[index].op.ownerCall?,
      ∀ deadline ∈
        lastLease? call.jobId call.owner (records.take index),
        call.now ≤ deadline))

/-- Every prefix of a punctual run is punctual. -/
theorem Punctual.of_append
    {past later : List (QueueRecord Value)}
    (punctual : Punctual (past ++ later)) :
    Punctual past := by
  intro index inRange call calls deadline leased
  have inWhole : index < (past ++ later).length := by
    rw [List.length_append]
    exact Nat.lt_add_right later.length inRange
  have sameStep : (past ++ later)[index] = past[index] :=
    List.getElem_append_left inRange
  have samePast : (past ++ later).take index = past.take index :=
    List.take_append_of_le_length (Nat.le_of_lt inRange)
  apply punctual index inWhole call
  · rw [sameStep]
    exact calls
  · rw [samePast]
    exact leased

/--
The premises on a run: fresh ids, claims for leases that end in the calendar, a
clock that never runs back, punctual.
-/
structure WellTimed (records : List (QueueRecord Value)) : Prop where
  fresh : ∀ executed ∈ records, executed.before.DrawsFresh executed.op
  inCalendar :
    ∀ executed ∈ records, executed.before.ClaimsInCalendar executed.op
  clock : (readingsOf records).Pairwise (· ≤ ·)
  punctual : Punctual records

namespace WellTimed

/-- The premises hold of every prefix of a run. -/
theorem of_append
    {past later : List (QueueRecord Value)}
    (timed : WellTimed (past ++ later)) :
    WellTimed past where
  fresh := fun executed member =>
    timed.fresh executed (List.mem_append_left _ member)
  inCalendar := fun executed member =>
    timed.inCalendar executed (List.mem_append_left _ member)
  clock := by
    have clock := timed.clock
    rw [readingsOf_append, List.pairwise_append] at clock
    exact clock.1
  punctual := timed.punctual.of_append

variable {past : List (QueueRecord Value)}
variable {last : QueueRecord Value}

/-- The last step reads no clock value below an earlier one. -/
theorem le_last
    (timed : WellTimed (past ++ [last]))
    {reading now : Instant}
    (earlier : reading ∈ readingsOf past)
    (taken : now ∈ last.op.readings) :
    reading ≤ now := by
  have clock := timed.clock
  rw [readingsOf_append_singleton, List.pairwise_append] at clock
  exact clock.2.2 reading earlier now taken

/-- The last step of a run is punctual. -/
theorem calledInTime
    (timed : WellTimed (past ++ [last]))
    (jobId : UUID)
    (owner : String)
    (now : Instant)
    (calls : last.op.ownerCall? = some ⟨jobId, owner, now⟩)
    (deadline : Instant)
    (leased : lastLease? jobId owner past = some deadline) :
    now ≤ deadline := by
  have inRange : past.length < (past ++ [last]).length := by
    simp
  apply timed.punctual past.length inRange ⟨jobId, owner, now⟩
  · simpa using calls
  · simpa using leased

/-- The last step draws a fresh id if it draws one. -/
theorem fresh_last (timed : WellTimed (past ++ [last])) :
    last.before.DrawsFresh last.op :=
  timed.fresh last (by simp)

/-- The last step does not overflow if it is a claim. -/
theorem inCalendar_last (timed : WellTimed (past ++ [last])) :
    last.before.ClaimsInCalendar last.op :=
  timed.inCalendar last (by simp)

end WellTimed

/--
A record of the run with sweeps against the record of the run without: the
same, or released by a sweep after the lease of the other one had expired.
-/
def Agree (readings : List Instant) (eager lazy : OrderJob Value) : Prop :=
  eager = lazy ∨
    ∃ sweep ∈ readings,
      lazy.leaseExpired sweep = true ∧ eager = lazy.released sweep

namespace Agree

variable {readings : List Instant}
variable {eager lazy : OrderJob Value}

/-- More clock readings do not disturb an agreement. -/
theorem append
    (agree : Agree readings eager lazy)
    (more : List Instant) :
    Agree (readings ++ more) eager lazy := by
  rcases agree with same | ⟨sweep, member, expired, released⟩
  · exact Or.inl same
  · exact Or.inr
      ⟨sweep, List.mem_append_left more member, expired, released⟩

/-- Agreeing records carry the same client order id. -/
theorem clientOrderId (agree : Agree readings eager lazy) :
    eager.clientOrderId = lazy.clientOrderId := by
  rcases agree with same | ⟨sweep, _, _, released⟩
  · rw [same]
  · rw [released]
    rfl

/-- An expired lease stays expired. -/
theorem expired_mono
    {job : OrderJob Value}
    {sweep now : Instant}
    (expired : job.leaseExpired sweep = true)
    (later : sweep ≤ now) :
    job.leaseExpired now = true := by
  rw [OrderJob.leaseExpired_iff] at expired ⊢
  obtain ⟨claimed, deadline, leased, passed⟩ := expired
  exact ⟨claimed, deadline, leased, lt_of_lt_of_le passed later⟩

/-- The claim scan treats agreeing records alike. -/
theorem claimable
    (agree : Agree readings eager lazy)
    {now : Instant}
    (latest : ∀ reading ∈ readings, reading ≤ now) :
    eager.claimable now = lazy.claimable now := by
  rcases agree with same | ⟨sweep, member, expired, released⟩
  · rw [same]
  · have lazyFree : lazy.claimable now = true :=
      OrderJob.claimable_iff.mpr
        (Or.inr (expired_mono expired (latest sweep member)))
    have eagerFree : eager.claimable now = true :=
      OrderJob.claimable_iff.mpr (Or.inl (by rw [released]; rfl))
    rw [eagerFree, lazyFree]

/-- Claiming makes agreeing records equal. -/
theorem taken
    (agree : Agree readings eager lazy)
    (owner : String)
    (leaseSeconds : Int)
    (now : Instant) :
    eager.taken owner leaseSeconds now =
      lazy.taken owner leaseSeconds now := by
  rcases agree with same | ⟨sweep, _, _, released⟩
  · rw [same]
  · rw [released]
    rfl

/-- A sweep over the first record alone keeps the agreement. -/
theorem recovered
    (agree : Agree readings eager lazy)
    (now : Instant) :
    Agree (readings ++ [now]) (eager.recovered now) lazy := by
  simp only [OrderJob.recovered]
  by_cases expired : eager.leaseExpired now = true
  · rw [if_pos expired]
    rcases agree with same | ⟨sweep, _, _, released⟩
    · subst same
      exact Or.inr ⟨now, by simp, expired, rfl⟩
    · have pending : eager.status = .pending := by
        rw [released]
        rfl
      rw [OrderJob.leaseExpired_iff, pending] at expired
      cases expired.1
  · rw [if_neg expired]
    exact agree.append [now]

end Agree

/-- Every lease on record is the last one its owner obtained. -/
def LeaseRecorded
    (past : List (QueueRecord Value))
    (queue : InMemoryJobQueue Value) : Prop :=
  ∀ jobId job owner deadline,
    queue.get jobId = some job →
    job.leaseOwner = some owner →
    job.leaseUntil = some deadline →
    lastLease? jobId owner past = some deadline

/-- A step that is observed alike keeps the leases on record. -/
theorem LeaseRecorded.step
    {past : List (QueueRecord Value)}
    {queue : InMemoryJobQueue Value}
    (recorded : LeaseRecorded past queue)
    (executed : QueueRecord Value)
    (fresh : queue.DrawsFresh executed.op)
    (inCalendar : queue.ClaimsInCalendar executed.op)
    (alike :
      executed.reply.observed =
        (queueMachine.step queue executed.op).2.observed) :
    LeaseRecorded (past ++ [executed])
      (queueMachine.step queue executed.op).1 := by
  intro jobId job owner deadline found owned leased
  have sameClaim := QueueReply.claimedId?_of_observed alike
  have sameAnswer := QueueReply.accepted_of_observed alike
  have move := queueMachine_moves fresh jobId
  have completes := inCalendar.completesOn jobId
  generalize beforeShape : queue.get jobId = before at move completes
  generalize afterShape :
    (queueMachine.step queue executed.op).1.get jobId = after
      at move found
  generalize replyShape :
    (queueMachine.step queue executed.op).2 = reply
      at move sameClaim sameAnswer
  generalize opShape : executed.op = op at move completes
  cases move with
  | untouched notHandedOut notAccepted =>
      have quiet : leaseGranted? jobId owner executed = none := by
        simp only [leaseGranted?, opShape, sameClaim, sameAnswer]
        cases op with
        | claim worker leaseSeconds now =>
            rw [QueueReply.handsOut_iff] at notHandedOut
            simp [notHandedOut]
        | heartbeat target worker leaseSeconds now later =>
            by_cases here : target = jobId
            · have refused := notAccepted _ rfl here
              simp [refused, QueueReply.accepted]
            · simp [here]
        | _ =>
            rfl
      rw [lastLease?_append_none quiet]
      exact recorded jobId job owner deadline
        (beforeShape.trans found) owned leased
  | created request draw drawn =>
      cases found
      cases owned
  | taken old worker leaseSeconds now filed free ends =>
      cases found
      cases owned
      cases leased
      have handedOut : executed.reply.claimedId? = some jobId := by
        rw [sameClaim, ← filed]
        rfl
      have granted :
          leaseGranted? jobId owner executed =
            some (now + timedelta leaseSeconds) := by
        simp [leaseGranted?, opShape, handedOut]
      exact lastLease?_append_some granted
  | seized old worker leaseSeconds now free overflows =>
      exact (overflows (completes old rfl free)).elim
  | unextended old worker leaseSeconds now later ownedBefore claimed
      overflows =>
      have quiet : leaseGranted? jobId owner executed = none := by
        have unanswered : executed.reply.accepted = false := sameAnswer
        simp [leaseGranted?, opShape, unanswered]
      rw [lastLease?_append_none quiet]
      exact recorded jobId job owner deadline
        (beforeShape.trans found) owned leased
  | extended old worker leaseSeconds now later ownedBefore claimed ends =>
      cases found
      have sameOwner : worker = owner := by
        rw [← Option.some.injEq, ← ownedBefore]
        exact owned
      subst sameOwner
      cases leased
      have answered : executed.reply.accepted = true := sameAnswer
      have granted :
          leaseGranted? jobId worker executed =
            some (now + timedelta leaseSeconds) := by
        simp [leaseGranted?, opShape, answered]
      exact lastLease?_append_some granted
  | finished old worker now ownedBefore =>
      cases found
      cases owned
  | failed old worker error now ownedBefore =>
      cases found
      cases owned
  | reviewed old worker reason now ownedBefore =>
      cases found
      cases owned
  | released old now count expired =>
      cases found
      cases owned

/-- The simulation between a run and the same run without its sweeps. -/
structure Simulates
    (past : List (QueueRecord Value))
    (eager lazy : InMemoryJobQueue Value) : Prop where
  records :
    OrderedDict.Pointwise (Agree (readingsOf past)) eager.jobs lazy.jobs
  leases : LeaseRecorded past lazy

namespace Simulates

variable {past : List (QueueRecord Value)}
variable {eager lazy : InMemoryJobQueue Value}

/-- Both sides know the same client order ids. -/
theorem findClientOrder
    (simulates : Simulates past eager lazy)
    (request : EnqueueRequest Value) :
    (eager.findClientOrder request = none ∧
        lazy.findClientOrder request = none) ∨
      ∃ jobId eagerJob lazyJob,
        eager.findClientOrder request = some eagerJob ∧
          lazy.findClientOrder request = some lazyJob ∧
          eager.get jobId = some eagerJob ∧
          lazy.get jobId = some lazyJob := by
  cases supplied : request.dedupId? with
  | none =>
      simp [InMemoryJobQueue.findClientOrder, supplied]
  | some clientOrderId =>
      simp only [InMemoryJobQueue.findClientOrder, supplied,
        Option.map_eq_none_iff, Option.map_eq_some_iff]
      rcases simulates.records.firstWhere?
          (fun job => job.clientOrderId = some clientOrderId)
          (fun left right agree => by rw [agree.clientOrderId]) with
        absent | ⟨jobId, eagerJob, lazyJob, eagerScan, lazyScan⟩
      · exact Or.inl absent
      · exact Or.inr ⟨jobId, eagerJob, lazyJob,
          ⟨_, eagerScan, rfl⟩, ⟨_, lazyScan, rfl⟩,
          (OrderedDict.get?_of_firstWhere? eagerScan).1,
          (OrderedDict.get?_of_firstWhere? lazyScan).1⟩

/-- An id that is fresh with the sweeps is fresh without them. -/
theorem drawsFresh
    (simulates : Simulates past eager lazy)
    {op : QueueOp Value}
    (fresh : eager.DrawsFresh op) :
    lazy.DrawsFresh op := by
  cases op with
  | enqueue request draw =>
      intro lazyUnknown
      have eagerUnknown : eager.findClientOrder request = none := by
        rcases simulates.findClientOrder request with
          ⟨unknown, _⟩ | ⟨_, _, _, _, known, _⟩
        · exact unknown
        · rw [known] at lazyUnknown
          cases lazyUnknown
      exact simulates.records.get?_eq_none (fresh eagerUnknown)
  | _ =>
      trivial

/-- The claim scan stops at one job on both sides, or on neither. -/
theorem scan?
    (simulates : Simulates past eager lazy)
    {now : Instant}
    (latest : ∀ reading ∈ readingsOf past, reading ≤ now) :
    (eager.scan? now = none ∧ lazy.scan? now = none) ∨
      ∃ jobId eagerJob lazyJob,
        eager.scan? now = some (jobId, eagerJob) ∧
          lazy.scan? now = some (jobId, lazyJob) :=
  simulates.records.firstWhere?
    (fun job => job.claimable now)
    (fun _ _ agree => agree.claimable latest)

/-- A claim that overflows on neither side with the sweeps does not without. -/
theorem claimsInCalendar
    (simulates : Simulates past eager lazy)
    {op : QueueOp Value}
    (latest : ∀ now ∈ op.readings, ∀ reading ∈ readingsOf past,
      reading ≤ now)
    (inCalendar : eager.ClaimsInCalendar op) :
    lazy.ClaimsInCalendar op := by
  cases op with
  | claim owner leaseSeconds now =>
      intro lazyStops
      rcases simulates.scan? (latest now (List.mem_singleton_self now)) with
        ⟨_, lazyNone⟩ | ⟨_, _, _, eagerScan, _⟩
      · rw [lazyNone] at lazyStops
        cases lazyStops
      · exact inCalendar (by rw [eagerScan]; rfl)
  | _ =>
      trivial

/-- Records that agree so far agree after a step that touches neither. -/
theorem relatedAt_append
    (simulates : Simulates past eager lazy)
    (executed : QueueRecord Value)
    {jobId : UUID}
    {left right : OrderJob Value}
    (leftFound : eager.get jobId = some left)
    (rightFound : lazy.get jobId = some right) :
    Agree (readingsOf (past ++ [executed])) left right := by
  rw [readingsOf_append_singleton]
  exact (simulates.records.relatedAt leftFound rightFound).append _

/-- A step that moves neither side keeps the records in agreement. -/
theorem records_append
    (simulates : Simulates past eager lazy)
    (executed : QueueRecord Value) :
    OrderedDict.Pointwise (Agree (readingsOf (past ++ [executed])))
      eager.jobs lazy.jobs where
  sameKeys := simulates.records.sameKeys
  relatedAt := simulates.relatedAt_append executed

/-- Enqueueing on both sides. -/
theorem enqueue
    (simulates : Simulates past eager lazy)
    (executed : QueueRecord Value)
    (request : EnqueueRequest Value)
    (draw : EnqueueDraw)
    (fresh : eager.DrawsFresh (.enqueue request draw)) :
    OrderedDict.Pointwise (Agree (readingsOf (past ++ [executed])))
        (eager.enqueue request draw).1.jobs
        (lazy.enqueue request draw).1.jobs ∧
      (eager.enqueue request draw).2.jobId =
        (lazy.enqueue request draw).2.jobId := by
  rcases simulates.findClientOrder request with
    ⟨eagerNew, lazyNew⟩ |
      ⟨jobId, eagerJob, lazyJob, eagerKnown, lazyKnown, eagerFound,
        lazyFound⟩
  · simp only [InMemoryJobQueue.enqueue, eagerNew, lazyNew, and_true]
    have eagerFresh :
        eager.jobs.get? (request.newJob draw).jobId = none :=
      fresh eagerNew
    have lazyFresh :
        lazy.jobs.get? (request.newJob draw).jobId = none :=
      simulates.records.get?_eq_none eagerFresh
    constructor
    · have grown := simulates.records.sameKeys
      simp only [OrderedDict.keys] at grown
      simp only [InMemoryJobQueue.store, OrderedDict.keys]
      rw [OrderedDict.entries_set_of_fresh _ _ eagerFresh,
        OrderedDict.entries_set_of_fresh _ _ lazyFresh,
        List.map_append, List.map_append, grown]
    · intro query left right leftFound rightFound
      change (eager.store _).get query = some left at leftFound
      change (lazy.store _).get query = some right at rightFound
      rw [InMemoryJobQueue.get_store] at leftFound rightFound
      by_cases created : query = (request.newJob draw).jobId
      · rw [if_pos created] at leftFound rightFound
        cases leftFound
        cases rightFound
        exact Or.inl rfl
      · rw [if_neg created] at leftFound rightFound
        exact simulates.relatedAt_append executed leftFound rightFound
  · simp only [InMemoryJobQueue.enqueue, eagerKnown, lazyKnown]
    refine ⟨simulates.records_append executed, ?_⟩
    rw [InMemoryJobQueue.jobId_of_get eagerFound,
      InMemoryJobQueue.jobId_of_get lazyFound]

/-- Mutating one job on both sides to equal records. -/
theorem mutate
    (simulates : Simulates past eager lazy)
    (executed : QueueRecord Value)
    (jobId : UUID)
    {change : OrderJob Value → OrderJob Value}
    {keepsId : ∀ job, (change job).jobId = job.jobId}
    (equalAfter : ∀ left right,
      eager.get jobId = some left → lazy.get jobId = some right →
        change left = change right) :
    OrderedDict.Pointwise (Agree (readingsOf (past ++ [executed])))
      (eager.mutate jobId change keepsId).jobs
      (lazy.mutate jobId change keepsId).jobs := by
  constructor
  · simp only [InMemoryJobQueue.mutate, OrderedDict.keys_modify]
    exact simulates.records.sameKeys
  · intro query left right leftFound rightFound
    change (eager.mutate jobId change keepsId).get query = some left
      at leftFound
    change (lazy.mutate jobId change keepsId).get query = some right
      at rightFound
    rw [InMemoryJobQueue.get_mutate] at leftFound rightFound
    by_cases here : query = jobId
    · subst here
      rw [if_pos rfl] at leftFound rightFound
      obtain ⟨oldLeft, oldLeftFound, rfl⟩ :=
        Option.map_eq_some_iff.mp leftFound
      obtain ⟨oldRight, oldRightFound, rfl⟩ :=
        Option.map_eq_some_iff.mp rightFound
      exact Or.inl (equalAfter oldLeft oldRight oldLeftFound oldRightFound)
    · rw [if_neg here] at leftFound rightFound
      exact simulates.relatedAt_append executed leftFound rightFound

/-- Claiming on both sides hands out the same job at the same attempt. -/
theorem claim
    (simulates : Simulates past eager lazy)
    (executed : QueueRecord Value)
    {owner : String}
    {leaseSeconds : Int}
    {now : Instant}
    (latest : ∀ reading ∈ readingsOf past, reading ≤ now)
    (inCalendar : eager.ClaimsInCalendar (.claim owner leaseSeconds now)) :
    OrderedDict.Pointwise (Agree (readingsOf (past ++ [executed])))
        (eager.claim owner now leaseSeconds).1.jobs
        (lazy.claim owner now leaseSeconds).1.jobs ∧
      (eager.claim owner now leaseSeconds).2 =
        (lazy.claim owner now leaseSeconds).2 := by
  rcases simulates.scan? latest with
    ⟨eagerNone, lazyNone⟩ |
      ⟨jobId, eagerJob, lazyJob, eagerScan, lazyScan⟩
  · simp only [InMemoryJobQueue.claim, eagerNone, lazyNone, and_true]
    exact simulates.records_append executed
  · have ends : EndsInCalendar now leaseSeconds :=
      inCalendar (by rw [eagerScan]; rfl)
    simp only [InMemoryJobQueue.claim, eagerScan, lazyScan, if_pos ends]
    have agree :
        ∀ left right, eager.get jobId = some left →
          lazy.get jobId = some right →
            left.taken owner leaseSeconds now =
              right.taken owner leaseSeconds now := by
      intro left right leftFound rightFound
      exact (simulates.records.relatedAt leftFound rightFound).taken
        owner leaseSeconds now
    refine ⟨simulates.mutate executed jobId agree,
      congrArg (fun job => Except.ok (some job)) ?_⟩
    exact agree eagerJob lazyJob
      (OrderedDict.get?_of_firstWhere? eagerScan).1
      (OrderedDict.get?_of_firstWhere? lazyScan).1

/-- A punctual owner call is answered alike and leaves equal records. -/
theorem ownerCall
    (simulates : Simulates past eager lazy)
    (executed : QueueRecord Value)
    {jobId : UUID}
    {owner : String}
    {now : Instant}
    {permits : OrderJob Value → Bool}
    {change : OrderJob Value → OrderJob Value}
    {keepsId : ∀ job, (change job).jobId = job.jobId}
    (latest : ∀ reading ∈ readingsOf past, reading ≤ now)
    (punctual : ∀ deadline,
      lastLease? jobId owner past = some deadline → now ≤ deadline)
    (checksOwner : ∀ job,
      permits job = true → job.leaseOwner = some owner) :
    OrderedDict.Pointwise (Agree (readingsOf (past ++ [executed])))
        (eager.ownerCall jobId permits change keepsId).1.jobs
        (lazy.ownerCall jobId permits change keepsId).1.jobs ∧
      (eager.ownerCall jobId permits change keepsId).2 =
        (lazy.ownerCall jobId permits change keepsId).2 := by
  cases eagerFound : eager.get jobId with
  | none =>
      have lazyFound : lazy.get jobId = none :=
        simulates.records.get?_eq_none eagerFound
      simp only [InMemoryJobQueue.ownerCall, eagerFound, lazyFound,
        and_true]
      exact simulates.records_append executed
  | some left =>
      obtain ⟨right, lazyFound, agree⟩ :=
        simulates.records.exists_right eagerFound
      change lazy.get jobId = some right at lazyFound
      rcases agree with same | ⟨sweep, member, expired, released⟩
      · subst same
        cases permitted : permits left with
        | false =>
            simp only [InMemoryJobQueue.ownerCall, eagerFound, lazyFound,
              permitted, Bool.false_eq_true, ↓reduceIte, and_true]
            exact simulates.records_append executed
        | true =>
            simp only [InMemoryJobQueue.ownerCall, eagerFound, lazyFound,
              permitted, ↓reduceIte, and_true]
            apply simulates.mutate executed jobId
            intro oldLeft oldRight oldLeftFound oldRightFound
            rw [eagerFound] at oldLeftFound
            rw [lazyFound] at oldRightFound
            cases oldLeftFound
            cases oldRightFound
            rfl
      · -- The sweep took the owner away; the other side would need a call
        -- after the deadline of the caller's last lease.
        have eagerRefuses : permits left = false := by
          by_contra permitted
          have owned := checksOwner left (by simpa using permitted)
          rw [released] at owned
          cases owned
        have lazyRefuses : permits right = false := by
          by_contra permitted
          have owned := checksOwner right (by simpa using permitted)
          obtain ⟨_, deadline, leased, passed⟩ :=
            OrderJob.leaseExpired_iff.mp expired
          have inTime := punctual deadline
            (simulates.leases jobId right owner deadline
              lazyFound owned leased)
          exact absurd (lt_of_lt_of_le passed (latest sweep member))
            (not_lt.mpr inTime)
        simp only [InMemoryJobQueue.ownerCall, eagerFound, lazyFound,
          eagerRefuses, lazyRefuses, Bool.false_eq_true, ↓reduceIte,
          and_true]
        exact simulates.records_append executed

/-- A punctual heartbeat is answered alike, or raised alike. -/
theorem heartbeat
    (simulates : Simulates past eager lazy)
    (executed : QueueRecord Value)
    {jobId : UUID}
    {owner : String}
    (leaseSeconds : Int)
    {now : Instant}
    (later : Instant)
    (latest : ∀ reading ∈ readingsOf past, reading ≤ now)
    (punctual : ∀ deadline,
      lastLease? jobId owner past = some deadline → now ≤ deadline) :
    OrderedDict.Pointwise (Agree (readingsOf (past ++ [executed])))
        (eager.heartbeat jobId owner now later leaseSeconds).1.jobs
        (lazy.heartbeat jobId owner now later leaseSeconds).1.jobs ∧
      (eager.heartbeat jobId owner now later leaseSeconds).2 =
        (lazy.heartbeat jobId owner now later leaseSeconds).2 := by
  let change := fun job : OrderJob Value =>
    job.extended leaseSeconds now later
  let keepsId : ∀ job, (change job).jobId = job.jobId := fun job =>
    job.extended_jobId leaseSeconds now later
  have called :
      OrderedDict.Pointwise (Agree (readingsOf (past ++ [executed])))
          (eager.ownerCall jobId (fun job => job.ownsLease owner) change
            keepsId).1.jobs
          (lazy.ownerCall jobId (fun job => job.ownsLease owner) change
            keepsId).1.jobs ∧
        (eager.ownerCall jobId (fun job => job.ownsLease owner) change
            keepsId).2 =
          (lazy.ownerCall jobId (fun job => job.ownsLease owner) change
            keepsId).2 :=
    simulates.ownerCall executed latest punctual
      (fun job owns => (OrderJob.ownsLease_iff.mp owns).1)
  have sameOwner :
      eager.ownsLease jobId owner = lazy.ownsLease jobId owner := by
    rw [Bool.eq_iff_iff, InMemoryJobQueue.ownsLease_iff_accepted change keepsId,
      InMemoryJobQueue.ownsLease_iff_accepted change keepsId, called.2]
  simp only [InMemoryJobQueue.heartbeat, sameOwner]
  split
  · exact ⟨simulates.records_append executed, rfl⟩
  · exact ⟨called.1, congrArg Except.ok called.2⟩

/-- A punctual call that asks for the owner only and reads the clock once. -/
theorem settlingCall
    (simulates : Simulates past eager lazy)
    {executed : QueueRecord Value}
    (timed : WellTimed (past ++ [executed]))
    {jobId : UUID}
    {owner : String}
    {now : Instant}
    {change : OrderJob Value → OrderJob Value}
    {keepsId : ∀ job, (change job).jobId = job.jobId}
    (calls : executed.op.ownerCall? = some ⟨jobId, owner, now⟩)
    (reads : executed.op.readings = [now]) :
    OrderedDict.Pointwise (Agree (readingsOf (past ++ [executed])))
        (eager.ownerCall jobId
          (fun job => decide (job.leaseOwner = some owner)) change
          keepsId).1.jobs
        (lazy.ownerCall jobId
          (fun job => decide (job.leaseOwner = some owner)) change
          keepsId).1.jobs ∧
      (eager.ownerCall jobId
          (fun job => decide (job.leaseOwner = some owner)) change
          keepsId).2 =
        (lazy.ownerCall jobId
          (fun job => decide (job.leaseOwner = some owner)) change
          keepsId).2 := by
  apply simulates.ownerCall executed
  · intro reading earlier
    exact timed.le_last earlier (by rw [reads]; exact List.mem_singleton_self now)
  · exact timed.calledInTime jobId owner now calls
  · intro job permitted
    exact of_decide_eq_true permitted

/-- A sweep on the first side alone. -/
theorem recoverExpired
    (simulates : Simulates past eager lazy)
    {executed : QueueRecord Value}
    {now : Instant}
    (sweeps : executed.op = .recoverExpired now) :
    Simulates (past ++ [executed]) (eager.recoverExpired now).1 lazy where
  records := by
    constructor
    · simp only [InMemoryJobQueue.recoverExpired,
        OrderedDict.keys_mapValues]
      exact simulates.records.sameKeys
    · intro jobId left right leftFound rightFound
      change (eager.recoverExpired now).1.get jobId = some left at leftFound
      rw [InMemoryJobQueue.get_recoverExpired] at leftFound
      obtain ⟨old, oldFound, rfl⟩ := Option.map_eq_some_iff.mp leftFound
      rw [readingsOf_append_singleton, sweeps]
      exact (simulates.records.relatedAt oldFound rightFound).recovered now
  leases := by
    intro jobId job owner deadline found owned leased
    have quiet : leaseGranted? jobId owner executed = none := by
      simp [leaseGranted?, sweeps]
    rw [lastLease?_append_none quiet]
    exact simulates.leases jobId job owner deadline found owned leased

/-- Every other call on both sides. -/
theorem step
    (simulates : Simulates past eager lazy)
    {op : QueueOp Value}
    (timed : WellTimed (past ++ [queueMachine.execute eager op]))
    (kept : op.isRecovery = false) :
    Simulates (past ++ [queueMachine.execute eager op])
        (queueMachine.step eager op).1 (queueMachine.step lazy op).1 ∧
      (queueMachine.step eager op).2.observed =
        (queueMachine.step lazy op).2.observed := by
  have fresh := timed.fresh_last
  have moved :
      OrderedDict.Pointwise
          (Agree (readingsOf (past ++ [queueMachine.execute eager op])))
          (queueMachine.step eager op).1.jobs
          (queueMachine.step lazy op).1.jobs ∧
        (queueMachine.step eager op).2.observed =
          (queueMachine.step lazy op).2.observed := by
    cases op with
    | enqueue request draw =>
        obtain ⟨records, sameId⟩ :=
          simulates.enqueue _ request draw fresh
        exact ⟨records, congrArg QueueObservation.enqueued sameId⟩
    | claim owner leaseSeconds now =>
        obtain ⟨records, sameJob⟩ :=
          simulates.claim _
            (fun reading earlier =>
              timed.le_last earlier (List.mem_singleton_self now))
            timed.inCalendar_last
        exact ⟨records, congrArg
          (fun job => (QueueReply.ofClaim job).observed) sameJob⟩
    | heartbeat jobId owner leaseSeconds now later =>
        obtain ⟨records, sameAnswer⟩ :=
          simulates.heartbeat _ leaseSeconds later
            (fun reading earlier => timed.le_last earlier
              (List.mem_cons_self (a := now)))
            (timed.calledInTime jobId owner now rfl)
        exact ⟨records, congrArg
          (fun accepted => (QueueReply.ofHeartbeat accepted :
            QueueReply Value).observed) sameAnswer⟩
    | complete jobId owner now =>
        obtain ⟨records, sameAnswer⟩ := simulates.settlingCall timed rfl rfl
        exact ⟨records, congrArg QueueObservation.answered sameAnswer⟩
    | fail jobId owner error now =>
        obtain ⟨records, sameAnswer⟩ := simulates.settlingCall timed rfl rfl
        exact ⟨records, congrArg QueueObservation.answered sameAnswer⟩
    | markManualReview jobId owner reason now =>
        obtain ⟨records, sameAnswer⟩ := simulates.settlingCall timed rfl rfl
        exact ⟨records, congrArg QueueObservation.answered sameAnswer⟩
    | recoverExpired now =>
        cases kept
  have latest : ∀ now ∈ op.readings, ∀ reading ∈ readingsOf past,
      reading ≤ now := fun now taken reading earlier =>
    timed.le_last earlier taken
  exact ⟨⟨moved.1, simulates.leases.step
    (queueMachine.execute eager op)
    (simulates.drawsFresh fresh)
    (simulates.claimsInCalendar latest timed.inCalendar_last) moved.2⟩,
    moved.2⟩

/-- Two queues without records agree. -/
theorem initially :
    Simulates [] (.empty : InMemoryJobQueue Value) .empty where
  records :=
    { sameKeys := rfl
      relatedAt := fun found => by cases found }
  leases := by
    intro jobId job owner deadline found
    cases found

end Simulates

/-- Admitted runs meet the premises at every one of their records. -/
theorem wellTimed_trace
    {ops : List (QueueOp Value)}
    (admitted : queueMachine.Admitted .empty ops)
    (inCalendar : ∀ executed ∈ queueMachine.trace .empty ops,
      executed.before.ClaimsInCalendar executed.op)
    (clock : (ops.flatMap QueueOp.readings).Pairwise (· ≤ ·))
    (punctual : Punctual (queueMachine.trace .empty ops)) :
    WellTimed (queueMachine.trace .empty ops) where
  fresh := fun _ member =>
    (queueMachine.reachable_before_of_mem_trace
      (Machine.Reachable.refl .empty) admitted member).2.1
  inCalendar := inCalendar
  clock := by
    rw [readingsOf_trace]
    exact clock
  punctual := punctual

/-- The calls of a run other than the recovery sweeps. -/
def withoutSweeps (ops : List (QueueOp Value)) : List (QueueOp Value) :=
  ops.filter fun op => !op.isRecovery

/-- What the callers of a run other than its sweeps observe, in order. -/
def observations
    (records : List (QueueRecord Value)) : List QueueObservation :=
  (Machine.keepRecords (fun op => !op.isRecovery) records).map
    fun executed => executed.reply.observed

/-- The run without sweeps is admitted, simulated and observed alike. -/
theorem simulates_withoutSweeps
    {ops : List (QueueOp Value)}
    (timed : WellTimed (queueMachine.trace .empty ops)) :
    queueMachine.Admitted .empty (withoutSweeps ops) ∧
      Simulates (queueMachine.trace .empty ops)
        (queueMachine.final .empty ops)
        (queueMachine.final .empty (withoutSweeps ops)) ∧
      observations (queueMachine.trace .empty ops) =
        (queueMachine.trace .empty (withoutSweeps ops)).map
          fun executed => executed.reply.observed := by
  refine queueMachine.erasure_simulation _ _ WellTimed Simulates
    (fun past last timedHere => timedHere.of_append)
    Simulates.initially ?_ ?_ ops timed
  · intro past eager lazy op simulates timedHere keeps
    have kept : op.isRecovery = false := by
      simpa using keeps
    obtain ⟨related, alike⟩ := simulates.step timedHere kept
    exact ⟨simulates.drawsFresh timedHere.fresh_last, related, alike⟩
  · intro past eager lazy op simulates timedHere erased
    cases op with
    | recoverExpired now =>
        exact simulates.recoverExpired rfl
    | _ =>
        cases erased

/--
Eager and lazy recovery agree.  Deleting every sweep from a punctual run with
a clock that never runs back, whose claims ask for leases that end in the
calendar, leaves an admitted run whose other calls are observed alike, and after
every prefix the two records of a job are the same, or one is pending while the
other is claimed under an expired lease.
-/
theorem eagerLazyRecoveryAgree
    (ops : List (QueueOp Value))
    (admitted : queueMachine.Admitted .empty ops)
    (inCalendar : ∀ executed ∈ queueMachine.trace .empty ops,
      executed.before.ClaimsInCalendar executed.op)
    (clock : (ops.flatMap QueueOp.readings).Pairwise (· ≤ ·))
    (punctual : Punctual (queueMachine.trace .empty ops)) :
    queueMachine.Admitted .empty (withoutSweeps ops) ∧
      observations (queueMachine.trace .empty ops) =
        observations (queueMachine.trace .empty (withoutSweeps ops)) ∧
      ∀ earlier later, ops = earlier ++ later →
        ∀ jobId,
          (queueMachine.final .empty earlier).get jobId =
              (queueMachine.final .empty (withoutSweeps earlier)).get jobId ∨
            ∃ eager lazy deadline,
              (queueMachine.final .empty earlier).get jobId = some eager ∧
              (queueMachine.final .empty (withoutSweeps earlier)).get jobId =
                some lazy ∧
              eager.status = .pending ∧
              lazy.status = .claimed ∧
              lazy.leaseUntil = some deadline ∧
              ∃ reading ∈ earlier.flatMap QueueOp.readings,
                deadline < reading := by
  have timed := wellTimed_trace admitted inCalendar clock punctual
  obtain ⟨reducedAdmitted, _, observedAlike⟩ := simulates_withoutSweeps timed
  refine ⟨reducedAdmitted, ?_, ?_⟩
  · rw [observedAlike, observations, withoutSweeps,
      queueMachine.keepRecords_trace_filter]
  · intro earlier later split jobId
    subst split
    rw [queueMachine.trace_append] at timed
    obtain ⟨_, simulates, _⟩ := simulates_withoutSweeps timed.of_append
    cases eagerFound : (queueMachine.final .empty earlier).get jobId with
    | none =>
        exact Or.inl (simulates.records.get?_eq_none eagerFound).symm
    | some eager =>
        obtain ⟨lazy, lazyFound, agree⟩ :=
          simulates.records.exists_right eagerFound
        rcases agree with same | ⟨sweep, member, expired, released⟩
        · rw [same]
          exact Or.inl lazyFound.symm
        · obtain ⟨claimed, deadline, leased, passed⟩ :=
            OrderJob.leaseExpired_iff.mp expired
          rw [readingsOf_trace] at member
          exact Or.inr ⟨eager, lazy, deadline, rfl, lazyFound,
            by rw [released]; rfl, claimed, leased, sweep, member, passed⟩

/-- A sweep releases the first worker's lease before the second one claims. -/
theorem eagerLazyRecoveryAgree_takeover :
    observations (queueMachine.trace (.empty : InMemoryJobQueue Unit)
        [.enqueue (.default 1 "PLACE_ORDER") ⟨7, 0, 0⟩,
          .claim "first" 30 1,
          .heartbeat 7 "first" 30 2 3,
          .recoverExpired 40000000,
          .claim "second" 30 50000000,
          .complete 7 "second" 60000000]) =
      [.enqueued 7, .claimed (some (7, 1)), .answered true,
        .claimed (some (7, 2)), .answered true] ∧
      queueMachine.Admitted (.empty : InMemoryJobQueue Unit)
        [.enqueue (.default 1 "PLACE_ORDER") ⟨7, 0, 0⟩,
          .claim "first" 30 1,
          .heartbeat 7 "first" 30 2 3,
          .claim "second" 30 50000000,
          .complete 7 "second" 60000000] :=
  ⟨by decide,
    (eagerLazyRecoveryAgree
      [.enqueue (.default 1 "PLACE_ORDER") ⟨7, 0, 0⟩,
        .claim "first" 30 1,
        .heartbeat 7 "first" 30 2 3,
        .recoverExpired 40000000,
        .claim "second" 30 50000000,
        .complete 7 "second" 60000000]
      (by decide) (by decide) (by decide) (by decide)).1⟩

/--
A claim that overflows on a job whose lease has expired leaves the job with the
old deadline, or with none where a sweep came first: the next claim returns the
job in the run without the sweep alone.
-/
theorem overflowed_claim_diverges :
    ¬ ∀ ops, queueMachine.Admitted (.empty : InMemoryJobQueue Unit) ops →
      (ops.flatMap QueueOp.readings).Pairwise (· ≤ ·) →
      Punctual (queueMachine.trace (.empty : InMemoryJobQueue Unit) ops) →
        observations (queueMachine.trace .empty ops) =
          observations (queueMachine.trace .empty (withoutSweeps ops)) := by
  intro agree
  have overrun := agree
    [.enqueue (.default 1 "PLACE_ORDER") ⟨7, 0, 0⟩,
      .claim "first" 30 1,
      .recoverExpired 40000000,
      .claim "second" 1000000000000 41000000,
      .claim "third" 30 42000000]
    (by decide) (by decide) (by decide)
  revert overrun
  decide

end SafeSignalTrader
