import SafeSignalTrader.QueueAttempts

/-!
# Fencing of stale workers

The queue keeps only the current owner of a job.  This module ties that field
to the history: the owner is the worker of the most recent ownership event of
the job, provided that event is a claim and no claim was raised after it wrote
the owner.  The answers of the four owner calls follow, although heartbeat tests
the status and the other three do not.
-/

namespace SafeSignalTrader

open RunSemantics

variable {Value : Type}

/-- An event that changes who may call on a job. -/
inductive Ownership where
  | claimedBy (owner : String)
  | settledByOwner
  | released
  deriving Repr, DecidableEq

/-- The owner an ownership event leaves behind. -/
def Ownership.owner? : Ownership → Option String
  | .claimedBy owner => some owner
  | .settledByOwner => none
  | .released => none

/-- A sweep released the job: it was claimed before and is pending after. -/
def releasedBetween (before after : Option (OrderJob Value)) : Bool :=
  before.any (fun job => job.status = .claimed) &&
    after.any (fun job => job.status = .pending)

/-- An accepted call on the job itself ends its ownership. -/
def settlementOf
    (jobId target : UUID)
    (reply : QueueReply Value) : Option Ownership :=
  if target = jobId ∧ reply.accepted = true then
    some .settledByOwner
  else
    none

/--
The ownership event of one step on a job: a claim returned it, its complete,
fail or manual-review call was accepted, or a recovery sweep released it.
-/
def ownershipOf
    (jobId : UUID)
    (op : QueueOp Value)
    (reply : QueueReply Value)
    (before after : Option (OrderJob Value)) : Option Ownership :=
  match op with
  | .claim owner _ _ =>
      if reply.claimedId? = some jobId then some (.claimedBy owner) else none
  | .complete target _ _ => settlementOf jobId target reply
  | .fail target _ _ _ => settlementOf jobId target reply
  | .markManualReview target _ _ _ => settlementOf jobId target reply
  | .recoverExpired _ =>
      if releasedBetween before after then some .released else none
  | .enqueue .. => none
  | .heartbeat .. => none

/-- The ownership event of a recorded step. -/
def ownershipEvent?
    (jobId : UUID)
    (executed : QueueRecord Value) : Option Ownership :=
  ownershipOf jobId executed.op executed.reply
    (executed.before.get jobId) (executed.after.get jobId)

/-- The most recent ownership event of a job. -/
def lastOwnership?
    (jobId : UUID)
    (records : List (QueueRecord Value)) : Option Ownership :=
  (records.filterMap (ownershipEvent? jobId)).getLast?

/-- A step without an ownership event keeps the last one. -/
theorem lastOwnership?_append_none
    {jobId : UUID}
    {past : List (QueueRecord Value)}
    {executed : QueueRecord Value}
    (quiet : ownershipEvent? jobId executed = none) :
    lastOwnership? jobId (past ++ [executed]) =
      lastOwnership? jobId past := by
  simp [lastOwnership?, List.filterMap_append, quiet]

/-- A step with an ownership event makes it the last one. -/
theorem lastOwnership?_append_some
    {jobId : UUID}
    {past : List (QueueRecord Value)}
    {executed : QueueRecord Value}
    {event : Ownership}
    (happens : ownershipEvent? jobId executed = some event) :
    lastOwnership? jobId (past ++ [executed]) = some event := by
  simp [lastOwnership?, List.filterMap_append, happens]

/-- The owner field of a record, if there is a record. -/
def ownerOf (record : Option (OrderJob Value)) : Option String :=
  record.bind OrderJob.leaseOwner

/-- A call that is refused on the job ends nobody's ownership. -/
private theorem settlementOf_eq_none
    {jobId target : UUID}
    {reply : QueueReply Value}
    (refused : target = jobId → reply = .answered false) :
    settlementOf jobId target reply = none := by
  simp only [settlementOf]
  split
  · next both =>
      have answer := both.2
      rw [refused both.1] at answer
      cases answer
  · rfl

/-- No sweep releases a record it does not change. -/
private theorem releasedBetween_self
    (record : Option (OrderJob Value)) :
    releasedBetween record record = false := by
  cases record with
  | none =>
      rfl
  | some job =>
      cases status : job.status <;> simp [releasedBetween, status]

/-- A step that leaves a job alone has no ownership event on it. -/
private theorem ownershipOf_untouched
    {jobId : UUID}
    {op : QueueOp Value}
    {reply : QueueReply Value}
    (record : Option (OrderJob Value))
    (notHandedOut : ¬ reply.HandsOut jobId)
    (notAccepted : ∀ call,
      op.ownerCall? = some call → call.jobId = jobId →
        reply = .answered false) :
    ownershipOf jobId op reply record record = none := by
  cases op with
  | enqueue request draw =>
      rfl
  | claim owner leaseSeconds now =>
      rw [QueueReply.handsOut_iff] at notHandedOut
      simp [ownershipOf, notHandedOut]
  | heartbeat target owner leaseSeconds now later =>
      rfl
  | complete target owner now =>
      exact settlementOf_eq_none (notAccepted _ rfl)
  | fail target owner error now =>
      exact settlementOf_eq_none (notAccepted _ rfl)
  | markManualReview target owner reason now =>
      exact settlementOf_eq_none (notAccepted _ rfl)
  | recoverExpired now =>
      simp [ownershipOf, releasedBetween_self]

/-- An ownership event sets the owner; without one the owner stays. -/
theorem JobMove.owner
    {jobId : UUID}
    {op : QueueOp Value}
    {reply : QueueReply Value}
    {before after : Option (OrderJob Value)}
    (move : JobMove jobId op reply before after)
    (completes : op.CompletesOn before) :
    ownerOf after =
      match ownershipOf jobId op reply before after with
      | none => ownerOf before
      | some event => event.owner? := by
  cases move with
  | untouched notHandedOut notAccepted =>
      rw [ownershipOf_untouched before notHandedOut notAccepted]
  | created request draw drawn =>
      simp [ownershipOf, ownerOf, EnqueueRequest.newJob]
  | taken job owner leaseSeconds now filed free ends =>
      simp [ownershipOf, ownerOf, OrderJob.taken, QueueReply.claimedId?,
        filed, Ownership.owner?]
  | seized job owner leaseSeconds now free overflows =>
      exact (overflows (completes job rfl free)).elim
  | extended job owner leaseSeconds now later owned claimed ends =>
      simp [ownershipOf, ownerOf, OrderJob.extended]
  | unextended job owner leaseSeconds now later owned claimed overflows =>
      rfl
  | finished job owner now owned =>
      simp [ownershipOf, settlementOf, QueueReply.accepted, ownerOf,
        OrderJob.finished, Ownership.owner?]
  | failed job owner error now owned =>
      simp [ownershipOf, settlementOf, QueueReply.accepted, ownerOf,
        OrderJob.failed, Ownership.owner?]
  | reviewed job owner reason now owned =>
      simp [ownershipOf, settlementOf, QueueReply.accepted, ownerOf,
        OrderJob.reviewed, Ownership.owner?]
  | released job now count expired =>
      have claimed := (OrderJob.leaseExpired_iff.mp expired).1
      simp [ownershipOf, releasedBetween, ownerOf, OrderJob.released,
        Ownership.owner?, claimed]

/-- The owner of a job is the worker of its last ownership event. -/
theorem ownerOf_final
    {ops : List (QueueOp Value)}
    (admitted : queueMachine.Admitted .empty ops)
    (inCalendar : ∀ executed ∈ queueMachine.trace .empty ops,
      executed.before.ClaimsInCalendar executed.op)
    (jobId : UUID) :
    ownerOf ((queueMachine.final .empty ops).get jobId) =
      (lastOwnership? jobId (queueMachine.trace .empty ops)).bind
        Ownership.owner? := by
  refine queueMachine.historyInvariant_restrict
    InMemoryJobQueue.ClaimsInCalendar
    (fun state past =>
      ownerOf (state.get jobId) =
        (lastOwnership? jobId past).bind Ownership.owner?) rfl ?_ admitted
    inCalendar
  intro state past op ownedSoFar fresh inCalendarHere
  have moved := (queueMachine_moves fresh jobId).owner
    (inCalendarHere.completesOn jobId)
  cases event :
      ownershipEvent? jobId (queueMachine.execute state op) with
  | none =>
      rw [lastOwnership?_append_none event, ← ownedSoFar, moved]
      simp only [ownershipEvent?, Machine.execute_op, Machine.execute_reply,
        Machine.execute_before, Machine.execute_after] at event
      rw [event]
  | some happened =>
      rw [lastOwnership?_append_some event, moved]
      simp only [ownershipEvent?, Machine.execute_op, Machine.execute_reply,
        Machine.execute_before, Machine.execute_after] at event
      rw [event]
      rfl

/-- The last ownership event is a claim by a worker exactly if he owns. -/
theorem lastOwnership?_eq_claimedBy_iff
    {ops : List (QueueOp Value)}
    (admitted : queueMachine.Admitted .empty ops)
    (inCalendar : ∀ executed ∈ queueMachine.trace .empty ops,
      executed.before.ClaimsInCalendar executed.op)
    (jobId : UUID)
    (owner : String) :
    lastOwnership? jobId (queueMachine.trace .empty ops) =
        some (.claimedBy owner) ↔
      ∃ job, (queueMachine.final .empty ops).get jobId = some job ∧
        job.leaseOwner = some owner := by
  have current := ownerOf_final admitted inCalendar jobId
  constructor
  · intro last
    rw [last] at current
    exact Option.bind_eq_some_iff.mp current
  · intro holder
    obtain ⟨job, found, owned⟩ := holder
    rw [found] at current
    simp only [ownerOf, Option.bind_some, owned] at current
    obtain ⟨event, last, left⟩ := Option.bind_eq_some_iff.mp current.symm
    cases event with
    | claimedBy worker =>
        simp only [Ownership.owner?, Option.some.injEq] at left
        rw [last, left]
    | settledByOwner =>
        cases left
    | released =>
        cases left

namespace InMemoryJobQueue

/-- An owner call returns an answer, unless a heartbeat overflows. -/
theorem step_answered
    (queue : InMemoryJobQueue Value)
    {op : QueueOp Value}
    {call : OwnerCall}
    (calls : op.ownerCall? = some call)
    (inCalendar : queue.ExtendsInCalendar op) :
    ∃ accepted, (queue.step op).2 = .answered accepted := by
  cases op with
  | heartbeat jobId owner leaseSeconds now later =>
      have completes :
          ¬ (queue.ownsLease jobId owner = true ∧
            ¬ EndsInCalendar now leaseSeconds) :=
        fun overflows => overflows.2 (inCalendar overflows.1)
      exact ⟨_, by simp only [step, heartbeat, if_neg completes]; rfl⟩
  | complete jobId owner now =>
      exact ⟨_, rfl⟩
  | fail jobId owner error now =>
      exact ⟨_, rfl⟩
  | markManualReview jobId owner reason now =>
      exact ⟨_, rfl⟩
  | _ =>
      cases calls

/-- In a reachable queue every owner call is accepted from the owner only. -/
theorem step_accepted_iff
    {queue : InMemoryJobQueue Value}
    (reachable : QueueReachable queue)
    {op : QueueOp Value}
    {call : OwnerCall}
    (calls : op.ownerCall? = some call)
    (inCalendar : queue.ExtendsInCalendar op) :
    (queue.step op).2 = .answered true ↔
      ∃ job, queue.get call.jobId = some job ∧
        job.leaseOwner = some call.owner := by
  cases op with
  | heartbeat jobId owner leaseSeconds now later =>
      cases calls
      have completes :
          ¬ (queue.ownsLease jobId owner = true ∧
            ¬ EndsInCalendar now leaseSeconds) :=
        fun overflows => overflows.2 (inCalendar overflows.1)
      simp only [step, heartbeat, if_neg completes, QueueReply.ofHeartbeat,
        QueueReply.answered.injEq, ownerCall_accepted_iff,
        OrderJob.ownsLease_iff]
      constructor
      · intro holder
        obtain ⟨job, found, owned, _⟩ := holder
        exact ⟨job, found, owned⟩
      · intro holder
        obtain ⟨job, found, owned⟩ := holder
        exact ⟨job, found, owned,
          (reachable.consistent found).claimed_of_owner owned⟩
  | complete jobId owner now =>
      cases calls
      simp only [step, complete, QueueReply.answered.injEq,
        ownerCall_accepted_iff, decide_eq_true_eq]
  | fail jobId owner error now =>
      cases calls
      simp only [step, fail, QueueReply.answered.injEq,
        ownerCall_accepted_iff, decide_eq_true_eq]
  | markManualReview jobId owner reason now =>
      cases calls
      simp only [step, markManualReview, QueueReply.answered.injEq,
        ownerCall_accepted_iff, decide_eq_true_eq]
  | _ =>
      cases calls

/-- A refused owner call leaves the queue as it was. -/
theorem step_refused
    {queue : InMemoryJobQueue Value}
    {op : QueueOp Value}
    (refused : (queue.step op).2 = .answered false) :
    (queue.step op).1 = queue := by
  cases op with
  | claim owner leaseSeconds now =>
      simp only [step] at refused
      cases claimed : (queue.claim owner now leaseSeconds).2 with
      | ok job =>
          rw [claimed] at refused
          cases refused
      | error raised =>
          rw [claimed] at refused
          cases refused
  | heartbeat jobId owner leaseSeconds now later =>
      simp only [step, heartbeat] at refused ⊢
      split
      · rfl
      · next completes =>
          rw [if_neg completes] at refused
          exact ownerCall_refused (QueueReply.answered.inj refused)
  | complete jobId owner now =>
      exact ownerCall_refused (QueueReply.answered.inj refused)
  | fail jobId owner error now =>
      exact ownerCall_refused (QueueReply.answered.inj refused)
  | markManualReview jobId owner reason now =>
      exact ownerCall_refused (QueueReply.answered.inj refused)
  | _ =>
      cases refused

end InMemoryJobQueue

/--
Stale workers are fenced in every run whose claims ask for leases that end in
the calendar: after it an owner call, if it is no heartbeat of the owner for a
lease that overflows, returns `True` exactly if the most recent ownership event
of the job is a claim by the caller, a call that returns `False` changes
nothing, and every job has been attempted as often as claims returned it.
-/
theorem staleWorkersFenced
    (ops : List (QueueOp Value))
    (admitted : queueMachine.Admitted .empty ops)
    (inCalendar : ∀ executed ∈ queueMachine.trace .empty ops,
      executed.before.ClaimsInCalendar executed.op) :
    (∀ op call, op.ownerCall? = some call →
        (queueMachine.final .empty ops).ExtendsInCalendar op →
        ((queueMachine.step (queueMachine.final .empty ops) op).2 =
            .answered true ↔
          lastOwnership? call.jobId (queueMachine.trace .empty ops) =
            some (.claimedBy call.owner)) ∧
        ((queueMachine.step (queueMachine.final .empty ops) op).2 =
            .answered true ∨
          (queueMachine.step (queueMachine.final .empty ops) op).2 =
              .answered false ∧
            (queueMachine.step (queueMachine.final .empty ops) op).1 =
              queueMachine.final .empty ops)) ∧
      ∀ jobId job,
        (queueMachine.final .empty ops).get jobId = some job →
          job.attempt =
            claimsOf jobId (queueMachine.trace .empty ops) := by
  refine ⟨?_, fun jobId job found => attempt_eq_claimsOf admitted found⟩
  intro op call calls extending
  have reachable : QueueReachable (queueMachine.final .empty ops) :=
    ⟨ops, admitted, rfl⟩
  refine ⟨?_, ?_⟩
  · rw [lastOwnership?_eq_claimedBy_iff admitted inCalendar]
    exact InMemoryJobQueue.step_accepted_iff reachable calls extending
  · obtain ⟨accepted, answered⟩ :=
      InMemoryJobQueue.step_answered (queueMachine.final .empty ops) calls
        extending
    cases accepted with
    | true =>
        exact Or.inl answered
    | false =>
        exact Or.inr ⟨answered, InMemoryJobQueue.step_refused answered⟩

/-- The worker whose lease was taken over is refused. -/
theorem staleWorkersFenced_takeover :
    (queueMachine.step
        (queueMachine.final (.empty : InMemoryJobQueue Unit)
          [.enqueue (.default 1 "PLACE_ORDER") ⟨7, 0, 0⟩,
            .claim "first" 30 1,
            .claim "second" 30 30000002])
        (.complete 7 "first" 30000003)).2 ≠ .answered true :=
  fun accepted =>
    absurd
      ((((staleWorkersFenced
        [.enqueue (.default 1 "PLACE_ORDER") ⟨7, 0, 0⟩,
          .claim "first" 30 1,
          .claim "second" 30 30000002]
        (by decide) (by decide)).1 (.complete 7 "first" 30000003)
          ⟨7, "first", 30000003⟩ rfl trivial).1).mp accepted)
      (by decide)

/-- After a claim that overflowed its worker completes a job it never got. -/
theorem overflowed_claim_completes :
    ¬ ∀ ops, queueMachine.Admitted (.empty : InMemoryJobQueue Unit) ops →
      ∀ op call, op.ownerCall? = some call →
        ((queueMachine.step (queueMachine.final .empty ops) op).2 =
            .answered true ↔
          lastOwnership? call.jobId (queueMachine.trace .empty ops) =
            some (.claimedBy call.owner)) := by
  intro fenced
  have overrun := fenced
    [.enqueue (.default 1 "PLACE_ORDER") ⟨7, 0, 0⟩,
      .claim "first" 1000000000000 1]
    (by decide) (.complete 7 "first" 2) ⟨7, "first", 2⟩ rfl
  have answered :
      (queueMachine.step
        (queueMachine.final (.empty : InMemoryJobQueue Unit)
          [.enqueue (.default 1 "PLACE_ORDER") ⟨7, 0, 0⟩,
            .claim "first" 1000000000000 1])
        (.complete 7 "first" 2)).2 = .answered true :=
    rfl
  exact absurd (overrun.mp answered) (by decide)

end SafeSignalTrader
