import SafeSignalTrader.QueueJobMoves

/-!
# The representation invariant of the queue

A stored record is in one of four statuses, and its status and owner agree on
whether it is claimed.  A record that reached `COMPLETED` or `MANUAL_REVIEW` has
no owner any more, so no later call can move it.  That a claimed record has a
deadline holds as long as no claim is raised half-way, at the end of a lease
that the calendar does not hold.
-/

namespace SafeSignalTrader

open RunSemantics

variable {Value : Type}

namespace OrderJob

/-- Status and owner of a record agree, and only an owner has a deadline. -/
structure Consistent (job : OrderJob Value) : Prop where
  status :
    job.status = .pending ∨ job.status = .claimed ∨
      job.status = .completed ∨ job.status = .manualReview
  owned : job.status = .claimed ↔ job.leaseOwner.isSome = true
  leased : job.leaseUntil.isSome = true → job.leaseOwner.isSome = true

/-- Every owner has a deadline. -/
def Leased (job : OrderJob Value) : Prop :=
  job.leaseOwner.isSome = true → job.leaseUntil.isSome = true

/-- The job has left the queue's working set for good. -/
def Settled (job : OrderJob Value) : Prop :=
  job.status = .completed ∨ job.status = .manualReview

namespace Consistent

/-- Only a claimed record has an owner. -/
theorem claimed_of_owner
    {job : OrderJob Value}
    (consistent : job.Consistent)
    {owner : String}
    (owned : job.leaseOwner = some owner) :
    job.status = .claimed :=
  consistent.owned.mpr (by simp [owned])

/-- A settled record has no owner. -/
theorem owner_of_settled
    {job : OrderJob Value}
    (consistent : job.Consistent)
    (settled : job.Settled)
    (owner : String) :
    job.leaseOwner ≠ some owner := by
  intro owned
  have claimed := consistent.claimed_of_owner owned
  rcases settled with completed | review
  · rw [claimed] at completed
    cases completed
  · rw [claimed] at review
    cases review

end Consistent

/-- Neither test of the scan passes on a settled record. -/
theorem Settled.not_claimable
    {job : OrderJob Value}
    (settled : job.Settled)
    (now : Instant) :
    ¬ job.claimable now = true := by
  rw [claimable_iff, leaseExpired_iff]
  rcases settled with completed | review
  · simp [completed]
  · simp [review]

end OrderJob

namespace JobMove

variable {jobId : UUID}
variable {op : QueueOp Value}
variable {reply : QueueReply Value}
variable {before after : Option (OrderJob Value)}

/-- Every move keeps status, owner and deadline in agreement. -/
theorem consistent
    (move : JobMove jobId op reply before after)
    (consistentBefore : ∀ job, before = some job → job.Consistent)
    {job : OrderJob Value}
    (found : after = some job) :
    job.Consistent := by
  cases move with
  | untouched _ _ =>
      exact consistentBefore job found
  | created request draw drawn =>
      cases found
      exact ⟨by simp [EnqueueRequest.newJob],
        by simp [EnqueueRequest.newJob],
        by simp [EnqueueRequest.newJob]⟩
  | taken old owner leaseSeconds now filed free ends =>
      cases found
      exact ⟨by simp [OrderJob.taken], by simp [OrderJob.taken],
        by simp [OrderJob.taken]⟩
  | seized old owner leaseSeconds now free overflows =>
      cases found
      exact ⟨by simp [OrderJob.seized], by simp [OrderJob.seized],
        by simp [OrderJob.seized]⟩
  | extended old owner leaseSeconds now later owned claimed ends =>
      cases found
      exact ⟨by simp [OrderJob.extended, claimed],
        by simp [OrderJob.extended, claimed, owned],
        by simp [OrderJob.extended, owned]⟩
  | unextended old owner leaseSeconds now later owned claimed overflows =>
      exact consistentBefore job found
  | finished old owner now owned =>
      cases found
      exact ⟨by simp [OrderJob.finished], by simp [OrderJob.finished],
        by simp [OrderJob.finished]⟩
  | failed old owner error now owned =>
      cases found
      by_cases exhausted : old.maxAttempts ≤ (old.attempt : Int)
      · exact ⟨by simp [OrderJob.failed, exhausted],
          by simp [OrderJob.failed, exhausted],
          by simp [OrderJob.failed]⟩
      · exact ⟨by simp [OrderJob.failed, exhausted],
          by simp [OrderJob.failed, exhausted],
          by simp [OrderJob.failed]⟩
  | reviewed old owner reason now owned =>
      cases found
      exact ⟨by simp [OrderJob.reviewed], by simp [OrderJob.reviewed],
        by simp [OrderJob.reviewed]⟩
  | released old now count expired =>
      cases found
      exact ⟨by simp [OrderJob.released], by simp [OrderJob.released],
        by simp [OrderJob.released]⟩

/-- Only a claim that is raised half-way leaves an owner without a deadline. -/
theorem leased
    (move : JobMove jobId op reply before after)
    (leasedBefore : ∀ job, before = some job → job.Leased)
    (completes : op.CompletesOn before)
    {job : OrderJob Value}
    (found : after = some job) :
    job.Leased := by
  cases move with
  | untouched _ _ =>
      exact leasedBefore job found
  | created request draw drawn =>
      cases found
      simp [OrderJob.Leased, EnqueueRequest.newJob]
  | taken old owner leaseSeconds now filed free ends =>
      cases found
      simp [OrderJob.Leased, OrderJob.taken]
  | seized old owner leaseSeconds now free overflows =>
      exact (overflows (completes old rfl free)).elim
  | extended old owner leaseSeconds now later owned claimed ends =>
      cases found
      simp [OrderJob.Leased, OrderJob.extended]
  | unextended old owner leaseSeconds now later owned claimed overflows =>
      exact leasedBefore job found
  | finished old owner now owned =>
      cases found
      simp [OrderJob.Leased, OrderJob.finished]
  | failed old owner error now owned =>
      cases found
      simp [OrderJob.Leased, OrderJob.failed]
  | reviewed old owner reason now owned =>
      cases found
      simp [OrderJob.Leased, OrderJob.reviewed]
  | released old now count expired =>
      cases found
      simp [OrderJob.Leased, OrderJob.released]

/-- No move removes a record. -/
theorem isSome_after
    (move : JobMove jobId op reply before after)
    (stored : before.isSome = true) :
    after.isSome = true := by
  cases move with
  | untouched _ _ =>
      exact stored
  | unextended _ _ _ _ _ _ _ _ =>
      exact stored
  | _ =>
      rfl

/-- No move changes a settled record, and no claim returns it. -/
theorem settled
    {job : OrderJob Value}
    (move : JobMove jobId op reply (some job) after)
    (consistent : job.Consistent)
    (settled : job.Settled) :
    after = some job ∧ ¬ reply.HandsOut jobId := by
  cases move with
  | untouched notHandedOut _ =>
      exact ⟨rfl, notHandedOut⟩
  | taken _ owner leaseSeconds now filed free ends =>
      exact (settled.not_claimable now free).elim
  | seized _ owner leaseSeconds now free overflows =>
      exact (settled.not_claimable now free).elim
  | extended _ owner leaseSeconds now later owned claimed ends =>
      exact (consistent.owner_of_settled settled owner owned).elim
  | unextended _ owner leaseSeconds now later owned claimed overflows =>
      exact (consistent.owner_of_settled settled owner owned).elim
  | finished _ owner now owned =>
      exact (consistent.owner_of_settled settled owner owned).elim
  | failed _ owner error now owned =>
      exact (consistent.owner_of_settled settled owner owned).elim
  | reviewed _ owner reason now owned =>
      exact (consistent.owner_of_settled settled owner owned).elim
  | released _ now count expired =>
      exact (settled.not_claimable now
        (OrderJob.claimable_iff.mpr (Or.inr expired))).elim

end JobMove

/-- Every record of a reachable queue is consistent. -/
theorem QueueReachable.consistent
    {queue : InMemoryJobQueue Value}
    (reachable : QueueReachable queue)
    {jobId : UUID}
    {job : OrderJob Value}
    (found : queue.get jobId = some job) :
    job.Consistent := by
  have everywhere :
      ∀ jobId job, queue.get jobId = some job → job.Consistent := by
    refine Machine.Reachable.invariant
      (fun state => ∀ jobId job,
        state.get jobId = some job → job.Consistent) reachable ?_ ?_
    · intro jobId job impossible
      cases impossible
    · intro state op consistent fresh jobId job located
      exact (queueMachine_moves fresh jobId).consistent
        (consistent jobId) located
  exact everywhere jobId job found

/-- In a run whose claims stay in the calendar every owner has a deadline. -/
theorem leased_final
    {ops : List (QueueOp Value)}
    (admitted : queueMachine.Admitted .empty ops)
    (inCalendar : ∀ executed ∈ queueMachine.trace .empty ops,
      executed.before.ClaimsInCalendar executed.op)
    {jobId : UUID}
    {job : OrderJob Value}
    (found : (queueMachine.final .empty ops).get jobId = some job) :
    job.Leased := by
  have everywhere :
      ∀ jobId job,
        (queueMachine.final .empty ops).get jobId = some job →
          job.Leased := by
    refine queueMachine.invariant_restrict
      InMemoryJobQueue.ClaimsInCalendar
      (fun state => ∀ jobId job,
        state.get jobId = some job → job.Leased) ?_ ?_ admitted inCalendar
    · intro state op leased fresh inCalendarHere jobId job located
      exact (queueMachine_moves fresh jobId).leased (leased jobId)
        (inCalendarHere.completesOn jobId) located
    · intro jobId job impossible
      cases impossible
  exact everywhere jobId job found

/-- A stored job stays stored. -/
theorem stored_final
    {queue : InMemoryJobQueue Value}
    {ops : List (QueueOp Value)}
    (admitted : queueMachine.Admitted queue ops)
    {jobId : UUID}
    (stored : (queue.get jobId).isSome = true) :
    ((queueMachine.final queue ops).get jobId).isSome = true :=
  queueMachine.invariant
    (fun state => (state.get jobId).isSome = true)
    (fun _ _ storedHere fresh =>
      (queueMachine_moves fresh jobId).isSome_after storedHere)
    stored admitted

/-- A settled record survives any run unchanged and is never handed out. -/
theorem settled_final
    {queue : InMemoryJobQueue Value}
    {ops : List (QueueOp Value)}
    (admitted : queueMachine.Admitted queue ops)
    {jobId : UUID}
    {job : OrderJob Value}
    (found : queue.get jobId = some job)
    (consistent : job.Consistent)
    (settled : job.Settled) :
    (queueMachine.final queue ops).get jobId = some job ∧
      ∀ executed ∈ queueMachine.trace queue ops,
        ¬ executed.reply.HandsOut jobId := by
  induction ops generalizing queue with
  | nil =>
      exact ⟨found, by simp⟩
  | cons op rest inductionHypothesis =>
      have move := queueMachine_moves admitted.1 jobId
      rw [found] at move
      obtain ⟨unchanged, notHandedOut⟩ := move.settled consistent settled
      obtain ⟨finally_, laterRefused⟩ :=
        inductionHypothesis admitted.2 unchanged
      refine ⟨finally_, ?_⟩
      intro executed member
      rcases List.mem_cons.mp member with isFirst | isLater
      · subst executed
        exact notHandedOut
      · exact laterRefused executed isLater

/-- Four pairwise different statuses that cover a list partition it. -/
private theorem status_counts
    (jobs : List (OrderJob Value))
    (covered : ∀ job ∈ jobs,
      job.status = .pending ∨ job.status = .claimed ∨
        job.status = .completed ∨ job.status = .manualReview) :
    (jobs.filter fun job => job.status = .pending).length +
        (jobs.filter fun job => job.status = .claimed).length +
        (jobs.filter fun job => job.status = .completed).length +
        (jobs.filter fun job => job.status = .manualReview).length =
      jobs.length := by
  induction jobs with
  | nil =>
      rfl
  | cons job rest inductionHypothesis =>
      have restCounts := inductionHypothesis fun later member =>
        covered later (List.mem_cons_of_mem job member)
      rcases covered job List.mem_cons_self with
        pending | claimed | completed | review
      · simp [pending]
        omega
      · simp [claimed]
        omega
      · simp [completed]
        omega
      · simp [review]
        omega

/-- The four status lists of a reachable queue add up to its size. -/
theorem QueueReachable.listByStatus_counts
    {queue : InMemoryJobQueue Value}
    (reachable : QueueReachable queue) :
    (queue.listByStatus .pending).length +
        (queue.listByStatus .claimed).length +
        (queue.listByStatus .completed).length +
        (queue.listByStatus .manualReview).length =
      queue.size := by
  have counts := status_counts queue.jobs.values (by
    intro job member
    obtain ⟨jobId, found⟩ := queue.jobs.mem_values_iff.mp member
    have stored : queue.get jobId = some job := found
    exact (reachable.consistent stored).status)
  simpa [InMemoryJobQueue.listByStatus, InMemoryJobQueue.size,
    OrderedDict.size, OrderedDict.values] using counts

/--
The representation invariant, in every run whose claims ask for leases that end
in the calendar: the records are consistent and partitioned by the four
statuses; from there on no record disappears, and a settled one never changes
and is never claimed again.
-/
theorem queueRepresentation
    (ops : List (QueueOp Value))
    (admitted : queueMachine.Admitted .empty ops)
    (inCalendar : ∀ executed ∈ queueMachine.trace .empty ops,
      executed.before.ClaimsInCalendar executed.op)
    (queue : InMemoryJobQueue Value)
    (reached : queueMachine.final .empty ops = queue) :
    (∀ jobId job, queue.get jobId = some job →
        (job.status = .pending ∨ job.status = .claimed ∨
          job.status = .completed ∨ job.status = .manualReview) ∧
        (job.status = .claimed ↔ job.leaseOwner.isSome = true) ∧
        (job.leaseOwner.isSome = true ↔ job.leaseUntil.isSome = true)) ∧
      (queue.listByStatus .pending).length +
          (queue.listByStatus .claimed).length +
          (queue.listByStatus .completed).length +
          (queue.listByStatus .manualReview).length =
        queue.size ∧
      ∀ later, queueMachine.Admitted queue later →
        ∀ jobId job, queue.get jobId = some job →
          ((queueMachine.final queue later).get jobId).isSome = true ∧
          (job.status = .completed ∨ job.status = .manualReview →
            (queueMachine.final queue later).get jobId = some job ∧
              ∀ executed ∈ queueMachine.trace queue later,
                ¬ executed.reply.HandsOut jobId) := by
  subst reached
  have reachable : QueueReachable (queueMachine.final .empty ops) :=
    ⟨ops, admitted, rfl⟩
  refine ⟨?_, reachable.listByStatus_counts, ?_⟩
  · intro jobId job found
    have consistent := reachable.consistent found
    exact ⟨consistent.status, consistent.owned,
      leased_final admitted inCalendar found, consistent.leased⟩
  · intro later laterAdmitted jobId job found
    refine ⟨stored_final laterAdmitted (by rw [found]; rfl), ?_⟩
    intro settled
    exact settled_final laterAdmitted found
      (reachable.consistent found) settled

/-- After a completed job and a pending one, the first is not claimed again. -/
theorem queueRepresentation_completed :
    let queue := queueMachine.final (.empty : InMemoryJobQueue Unit)
      [.enqueue (.default 1 "PLACE_ORDER") ⟨7, 0, 0⟩,
        .enqueue (.default 2 "PLACE_ORDER") ⟨8, 1, 1⟩,
        .claim "first" 30 2,
        .complete 7 "first" 3]
    (queue.listByStatus .pending).length +
        (queue.listByStatus .claimed).length +
        (queue.listByStatus .completed).length +
        (queue.listByStatus .manualReview).length = 2 ∧
      (queueMachine.step queue (.claim "second" 30 90000000)).2.claimedId? =
        some 8 :=
  ⟨(queueRepresentation
      [.enqueue (.default 1 "PLACE_ORDER") ⟨7, 0, 0⟩,
        .enqueue (.default 2 "PLACE_ORDER") ⟨8, 1, 1⟩,
        .claim "first" 30 2,
        .complete 7 "first" 3]
      (by decide) (by decide) _ rfl).2.1.trans (by decide),
    by decide⟩

/--
A claim for 10^12 seconds overflows the calendar after it wrote the owner: the
job is left claimed by an owner that has no deadline.
-/
theorem claim_overflow_unleased :
    ¬ ∀ queue : InMemoryJobQueue Unit, QueueReachable queue →
      ∀ jobId job, queue.get jobId = some job →
        (job.leaseOwner.isSome = true ↔ job.leaseUntil.isSome = true) := by
  intro leased
  have overrun := leased _
    ⟨[.enqueue (.default 1 "PLACE_ORDER") ⟨7, 0, 0⟩,
      .claim "first" 1000000000000 1], by decide, rfl⟩ 7 _ rfl
  revert overrun
  decide

end SafeSignalTrader
