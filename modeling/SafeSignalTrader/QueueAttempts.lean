import SafeSignalTrader.QueueInvariant

/-!
# Attempts and retries

`attempt` counts the claims that returned a job.  The limit `max_attempts` is
enforced by `fail` alone: it parks a job whose attempts are used up instead of
returning it to the scan.  Taking back an expired lease does not look at the
limit, neither in `recover_expired` nor in the take-over branch of `claim`, so
a job whose workers crash is claimed without bound.
-/

namespace SafeSignalTrader

open RunSemantics

variable {Value : Type}

/-- How often a claim returned a job. -/
def claimsOf (jobId : UUID) (records : List (QueueRecord Value)) : Nat :=
  records.countP fun executed => executed.reply.claimedId? = some jobId

@[simp] theorem claimsOf_nil (jobId : UUID) :
    claimsOf jobId ([] : List (QueueRecord Value)) = 0 :=
  rfl

theorem claimsOf_append_singleton
    (jobId : UUID)
    (past : List (QueueRecord Value))
    (executed : QueueRecord Value) :
    claimsOf jobId (past ++ [executed]) =
      claimsOf jobId past +
        if executed.reply.claimedId? = some jobId then 1 else 0 := by
  simp [claimsOf, List.countP_append, List.countP_singleton]

/-- The attempts recorded for a job id; none for an unknown id. -/
def attemptsOf (record : Option (OrderJob Value)) : Nat :=
  (record.map OrderJob.attempt).getD 0

/-- A move raises the attempt count exactly when a claim returned the job. -/
theorem JobMove.attempts
    {jobId : UUID}
    {op : QueueOp Value}
    {reply : QueueReply Value}
    {before after : Option (OrderJob Value)}
    (move : JobMove jobId op reply before after) :
    attemptsOf after =
      attemptsOf before +
        if reply.claimedId? = some jobId then 1 else 0 := by
  cases move with
  | untouched notHandedOut _ =>
      rw [QueueReply.handsOut_iff] at notHandedOut
      simp [notHandedOut]
  | created request draw drawn =>
      simp [attemptsOf, EnqueueRequest.newJob, QueueReply.claimedId?]
  | taken job owner leaseSeconds now filed free ends =>
      simp [attemptsOf, OrderJob.taken, QueueReply.claimedId?, filed]
  | seized job owner leaseSeconds now free overflows =>
      simp [attemptsOf, OrderJob.seized, QueueReply.claimedId?]
  | extended job owner leaseSeconds now later owned claimed ends =>
      simp [attemptsOf, OrderJob.extended, QueueReply.claimedId?]
  | unextended job owner leaseSeconds now later owned claimed overflows =>
      simp [QueueReply.claimedId?]
  | finished job owner now owned =>
      simp [attemptsOf, OrderJob.finished, QueueReply.claimedId?]
  | failed job owner error now owned =>
      simp [attemptsOf, OrderJob.failed, QueueReply.claimedId?]
  | reviewed job owner reason now owned =>
      simp [attemptsOf, OrderJob.reviewed, QueueReply.claimedId?]
  | released job now count expired =>
      simp [attemptsOf, OrderJob.released, QueueReply.claimedId?]

/-- Along a run the attempts of every job count its claims. -/
theorem claimsOf_trace
    {ops : List (QueueOp Value)}
    (admitted : queueMachine.Admitted .empty ops)
    (jobId : UUID) :
    claimsOf jobId (queueMachine.trace .empty ops) =
      attemptsOf ((queueMachine.final .empty ops).get jobId) := by
  refine queueMachine.historyInvariant
    (fun state past =>
      claimsOf jobId past = attemptsOf (state.get jobId)) rfl ?_ admitted
  intro state past op counted fresh
  rw [claimsOf_append_singleton, counted,
    (queueMachine_moves fresh jobId).attempts]
  rfl

/-- The attempt field of a stored job is the number of its claims. -/
theorem attempt_eq_claimsOf
    {ops : List (QueueOp Value)}
    (admitted : queueMachine.Admitted .empty ops)
    {jobId : UUID}
    {job : OrderJob Value}
    (found : (queueMachine.final .empty ops).get jobId = some job) :
    job.attempt = claimsOf jobId (queueMachine.trace .empty ops) := by
  rw [claimsOf_trace admitted jobId, found]
  rfl

namespace InMemoryJobQueue

/--
The call takes back the expired lease of a job, either by releasing it or
because the claim scan stops at it.
-/
def Retakes
    (queue : InMemoryJobQueue Value)
    (op : QueueOp Value)
    (jobId : UUID)
    (job : OrderJob Value) : Prop :=
  match op with
  | .recoverExpired now => job.leaseExpired now = true
  | .claim _ _ now =>
      job.leaseExpired now = true ∧
        (queue.jobs.firstWhere? fun other => other.claimable now).map
          Prod.fst = some jobId
  | _ => False

instance decidableRetakes
    (queue : InMemoryJobQueue Value)
    (jobId : UUID)
    (job : OrderJob Value) :
    ∀ op, Decidable (queue.Retakes op jobId job)
  | .recoverExpired now =>
      inferInstanceAs (Decidable (job.leaseExpired now = true))
  | .claim _ _ now =>
      inferInstanceAs (Decidable (job.leaseExpired now = true ∧
        (queue.jobs.firstWhere? fun other => other.claimable now).map
          Prod.fst = some jobId))
  | .enqueue .. => isFalse id
  | .heartbeat .. => isFalse id
  | .complete .. => isFalse id
  | .fail .. => isFalse id
  | .markManualReview .. => isFalse id

/-- The call takes back the expired lease of a job without attempts left. -/
def RetakesExhausted
    (queue : InMemoryJobQueue Value)
    (op : QueueOp Value)
    (jobId : UUID) : Prop :=
  ∃ job ∈ queue.get jobId,
    job.maxAttempts ≤ (job.attempt : Int) ∧ queue.Retakes op jobId job

instance decidableRetakesExhausted
    (queue : InMemoryJobQueue Value)
    (op : QueueOp Value)
    (jobId : UUID) :
    Decidable (queue.RetakesExhausted op jobId) :=
  have := decidableRetakes queue jobId
  inferInstanceAs (Decidable (∃ job ∈ queue.get jobId,
    job.maxAttempts ≤ (job.attempt : Int) ∧ queue.Retakes op jobId job))

/-- A claim returns the job its scan stops at. -/
theorem scan_of_handsOut
    {queue : InMemoryJobQueue Value}
    {owner : String}
    {leaseSeconds : Int}
    {now : Instant}
    {jobId : UUID}
    (handedOut :
      (queue.step (.claim owner leaseSeconds now)).2.HandsOut jobId) :
    (queue.jobs.firstWhere? fun other => other.claimable now).map
      Prod.fst = some jobId := by
  obtain ⟨taken, replied, filed⟩ := handedOut
  change (queue.scan? now).map Prod.fst = some jobId
  cases scan : queue.scan? now with
  | none =>
      simp [step, claim, scan, QueueReply.ofClaim] at replied
  | some entry =>
      obtain ⟨found, _⟩ := OrderedDict.get?_of_firstWhere? scan
      by_cases ends : EndsInCalendar now leaseSeconds
      · simp only [step, claim, scan, if_pos ends, QueueReply.ofClaim,
          QueueReply.claimed.injEq, Option.some.injEq] at replied
        have sameId : entry.1 = jobId := by
          rw [← queue.keyed entry.1 entry.2 found, ← filed, ← replied,
            OrderJob.taken_jobId]
        exact congrArg some sameId
      · simp [step, claim, scan, ends, QueueReply.ofClaim] at replied

end InMemoryJobQueue

/-- Attempts stay within the limit, with one to spare on a pending job. -/
structure WithinLimit (job : OrderJob Value) : Prop where
  bounded : (job.attempt : Int) ≤ job.maxAttempts
  spare : job.status = .pending → (job.attempt : Int) < job.maxAttempts

/--
A step keeps a job within its limit unless it takes back the expired lease of
an exhausted job.
-/
theorem withinLimit_step
    {queue : InMemoryJobQueue Value}
    {op : QueueOp Value}
    {jobId : UUID}
    (fresh : queueMachine.admits queue op)
    (allowed : ¬ queue.RetakesExhausted op jobId)
    (within : ∀ job, queue.get jobId = some job →
      1 ≤ job.maxAttempts → WithinLimit job)
    {job : OrderJob Value}
    (found : (queueMachine.step queue op).1.get jobId = some job)
    (limited : 1 ≤ job.maxAttempts) :
    WithinLimit job := by
  have move := queueMachine_moves fresh jobId
  generalize beforeShape : queue.get jobId = before at move within
  generalize afterShape :
    (queueMachine.step queue op).1.get jobId = after at move found
  generalize replyShape : (queueMachine.step queue op).2 = reply at move
  cases move with
  | untouched _ _ =>
      exact within job found limited
  | created request draw drawn =>
      cases found
      have atLeastOne : 1 ≤ request.maxAttempts := limited
      exact ⟨by simp [EnqueueRequest.newJob]; omega,
        fun _ => by simp [EnqueueRequest.newJob]; omega⟩
  | taken old owner leaseSeconds now filed free ends =>
      cases found
      have oldWithin := within old rfl limited
      have oneLeft : (old.attempt : Int) < old.maxAttempts := by
        rcases OrderJob.claimable_iff.mp free with pending | expired
        · exact oldWithin.spare pending
        · by_contra exhausted
          -- The scan stopped at this very job, so the call retook it.
          have handedOut :
              (queue.step (.claim owner leaseSeconds now)).2.HandsOut
                jobId :=
            ⟨_, replyShape, filed⟩
          exact allowed
            ⟨old, beforeShape, not_lt.mp exhausted, expired,
              InMemoryJobQueue.scan_of_handsOut handedOut⟩
      refine ⟨?_, by simp [OrderJob.taken]⟩
      simp only [OrderJob.taken, Nat.cast_add, Nat.cast_one]
      omega
  | seized old owner leaseSeconds now free overflows =>
      cases found
      have oldWithin := within old rfl limited
      exact ⟨oldWithin.bounded, by simp [OrderJob.seized]⟩
  | extended old owner leaseSeconds now later owned claimed ends =>
      cases found
      have oldWithin := within old rfl limited
      exact ⟨oldWithin.bounded, oldWithin.spare⟩
  | unextended old owner leaseSeconds now later owned claimed overflows =>
      exact within job found limited
  | finished old owner now owned =>
      cases found
      have oldWithin := within old rfl limited
      exact ⟨oldWithin.bounded, by simp [OrderJob.finished]⟩
  | failed old owner error now owned =>
      cases found
      have oldWithin := within old rfl limited
      refine ⟨oldWithin.bounded, ?_⟩
      by_cases exhausted : old.maxAttempts ≤ (old.attempt : Int)
      · simp [OrderJob.failed, exhausted]
      · intro _
        exact not_le.mp exhausted
  | reviewed old owner reason now owned =>
      cases found
      have oldWithin := within old rfl limited
      exact ⟨oldWithin.bounded, by simp [OrderJob.reviewed]⟩
  | released old now count expired =>
      cases found
      have oldWithin := within old rfl limited
      refine ⟨oldWithin.bounded, fun _ => ?_⟩
      by_contra exhausted
      exact allowed ⟨old, beforeShape, not_lt.mp exhausted, expired⟩

/--
Retries are bounded in every run that never takes back an expired lease of the
job once its attempts are used up: in every state of the run the job's
attempts, that is the claims that returned it, stay within `max_attempts`.
-/
theorem boundedRetries
    (ops : List (QueueOp Value))
    (admitted : queueMachine.Admitted .empty ops)
    (jobId : UUID)
    (allowed : ∀ executed ∈ queueMachine.trace .empty ops,
      ¬ executed.before.RetakesExhausted executed.op jobId) :
    ∀ earlier later, ops = earlier ++ later →
      ∀ job, (queueMachine.final .empty earlier).get jobId = some job →
        1 ≤ job.maxAttempts →
          (job.attempt : Int) ≤ job.maxAttempts ∧
            (claimsOf jobId (queueMachine.trace .empty earlier) : Int) ≤
              job.maxAttempts := by
  intro earlier later split job found limited
  subst split
  have earlierAdmitted :=
    ((queueMachine.admitted_append .empty earlier later).mp admitted).1
  have earlierAllowed :
      ∀ executed ∈ queueMachine.trace .empty earlier,
        ¬ executed.before.RetakesExhausted executed.op jobId := by
    intro executed member
    apply allowed executed
    rw [queueMachine.trace_append]
    exact List.mem_append_left _ member
  have within :=
    queueMachine.historyInvariant
      (fun state past =>
        (∀ executed ∈ past,
          ¬ executed.before.RetakesExhausted executed.op jobId) →
        ∀ job, state.get jobId = some job →
          1 ≤ job.maxAttempts → WithinLimit job)
      (by
        intro _ job impossible
        cases impossible)
      (by
        intro state past op withinSoFar fresh allowedSoFar job located
          limitedHere
        have lastAllowed :=
          allowedSoFar (queueMachine.execute state op) (by simp)
        have pastWithin := withinSoFar fun executed member =>
          allowedSoFar executed (List.mem_append_left _ member)
        exact withinLimit_step fresh lastAllowed pastWithin
          located limitedHere)
      earlierAdmitted earlierAllowed job found limited
  refine ⟨within.bounded, ?_⟩
  rw [← attempt_eq_claimsOf earlierAdmitted found]
  exact within.bounded

/-- A job allowed two attempts fails twice and is then out of reach. -/
theorem boundedRetries_failedTwice :
    (claimsOf 7 (queueMachine.trace (.empty : InMemoryJobQueue Unit)
      [.enqueue { EnqueueRequest.default 1 "PLACE_ORDER" with
          maxAttempts := 2 } ⟨7, 0, 0⟩,
        .claim "first" 30 1, .fail 7 "first" "timeout" 2,
        .claim "first" 30 3, .fail 7 "first" "timeout" 4,
        .claim "first" 30 5]) : Int) ≤ 2 :=
  (boundedRetries
    [.enqueue { EnqueueRequest.default 1 "PLACE_ORDER" with
        maxAttempts := 2 } ⟨7, 0, 0⟩,
      .claim "first" 30 1, .fail 7 "first" "timeout" 2,
      .claim "first" 30 3, .fail 7 "first" "timeout" 4,
      .claim "first" 30 5]
    (by decide) 7 (by decide) _ [] (List.append_nil _).symm
    _ rfl (by decide)).2

/--
Two workers crash in turn on a job allowed one attempt: the claim that takes
over the expired lease raises its attempts to two.
-/
theorem retries_exceeded_by_takeover :
    ¬ ∀ ops, queueMachine.Admitted (.empty : InMemoryJobQueue Unit) ops →
      ∀ jobId job, (queueMachine.final .empty ops).get jobId = some job →
        1 ≤ job.maxAttempts →
          (job.attempt : Int) ≤ job.maxAttempts := by
  intro bounded
  have overrun := bounded
    [.enqueue { EnqueueRequest.default 1 "PLACE_ORDER" with
        maxAttempts := 1 } ⟨7, 0, 0⟩,
      .claim "first" 30 1,
      .claim "second" 30 30000002]
    (by decide) 7 _ rfl (by decide)
  revert overrun
  decide

end SafeSignalTrader
