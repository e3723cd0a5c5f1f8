import SafeSignalTrader.QueueJobMoves

/-!
# Lease exclusivity

While the clock has not passed the deadline of a lease, nobody but its owner
can move the leased job: the claim scan and the recovery sweep both compare the
deadline strictly, and the owner calls compare the owner.
-/

namespace SafeSignalTrader

open RunSemantics

variable {Value : Type}

namespace OrderJob

/-- The job is claimed by an owner under a lease with this deadline. -/
structure HeldBy
    (job : OrderJob Value)
    (owner : String)
    (deadline : Instant) : Prop where
  claimed : job.status = .claimed
  owned : job.leaseOwner = some owner
  leased : job.leaseUntil = some deadline

namespace HeldBy

variable {job : OrderJob Value}
variable {owner : String}
variable {deadline : Instant}

/-- A lease is not expired at its own deadline or before. -/
theorem not_expired
    (held : job.HeldBy owner deadline)
    {now : Instant}
    (early : now ≤ deadline) :
    ¬ job.leaseExpired now = true := by
  rw [leaseExpired_iff]
  intro expired
  obtain ⟨_, found, leased, passed⟩ := expired
  rw [held.leased, Option.some.injEq] at leased
  subst leased
  exact absurd passed (not_lt.mpr early)

/-- The claim scan does not stop at a job whose lease has not expired. -/
theorem not_claimable
    (held : job.HeldBy owner deadline)
    {now : Instant}
    (early : now ≤ deadline) :
    ¬ job.claimable now = true := by
  rw [claimable_iff]
  intro free
  rcases free with pending | expired
  · rw [held.claimed] at pending
    cases pending
  · exact held.not_expired early expired

/-- Another worker is not the owner. -/
theorem not_owned
    (held : job.HeldBy owner deadline)
    {worker : String}
    (foreign : some worker ≠ some owner) :
    job.leaseOwner ≠ some worker := by
  rw [held.owned]
  exact foreign.symm

end HeldBy

end OrderJob

/-- A call by another worker before the deadline neither moves nor grants. -/
theorem JobMove.held
    {jobId : UUID}
    {op : QueueOp Value}
    {reply : QueueReply Value}
    {job : OrderJob Value}
    {after : Option (OrderJob Value)}
    {owner : String}
    {deadline : Instant}
    (move : JobMove jobId op reply (some job) after)
    (held : job.HeldBy owner deadline)
    (foreign : op.worker? ≠ some owner)
    (early : ∀ reading ∈ op.readings, reading ≤ deadline) :
    after = some job ∧
      ¬ reply.HandsOut jobId ∧
        ∀ call, op.ownerCall? = some call → call.jobId = jobId →
          reply = .answered false := by
  cases move with
  | untouched notHandedOut notAccepted =>
      exact ⟨rfl, notHandedOut, notAccepted⟩
  | taken _ worker leaseSeconds now filed free ends =>
      have notFree : ¬ job.claimable now = true :=
        held.not_claimable (early now (by simp [QueueOp.readings]))
      exact (notFree free).elim
  | seized _ worker leaseSeconds now free overflows =>
      have notFree : ¬ job.claimable now = true :=
        held.not_claimable (early now (by simp [QueueOp.readings]))
      exact (notFree free).elim
  | extended _ worker leaseSeconds now later owned claimed ends =>
      exact (held.not_owned foreign owned).elim
  | unextended _ worker leaseSeconds now later owned claimed overflows =>
      exact (held.not_owned foreign owned).elim
  | finished _ worker now owned =>
      exact (held.not_owned foreign owned).elim
  | failed _ worker error now owned =>
      exact (held.not_owned foreign owned).elim
  | reviewed _ worker reason now owned =>
      exact (held.not_owned foreign owned).elim
  | released _ now count expired =>
      have notExpired : ¬ job.leaseExpired now = true :=
        held.not_expired (early now (by simp [QueueOp.readings]))
      exact (notExpired expired).elim

/--
Lease exclusivity: through every interleaving of calls by other workers and of
recovery sweeps that reads no clock past the deadline, the leased job is never
handed out, every call on it is refused, and its record does not change.
-/
theorem leaseExclusivity
    (queue : InMemoryJobQueue Value)
    (jobId : UUID)
    (job : OrderJob Value)
    (owner : String)
    (deadline : Instant)
    (ops : List (QueueOp Value))
    (found : queue.get jobId = some job)
    (claimed : job.status = .claimed)
    (owned : job.leaseOwner = some owner)
    (leased : job.leaseUntil = some deadline)
    (admitted : queueMachine.Admitted queue ops)
    (foreign : ∀ op ∈ ops, op.worker? ≠ some owner)
    (early : ∀ op ∈ ops, ∀ reading ∈ op.readings, reading ≤ deadline) :
    (∀ executed ∈ queueMachine.trace queue ops,
        ¬ executed.reply.HandsOut jobId ∧
          ∀ call, executed.op.ownerCall? = some call →
            call.jobId = jobId → executed.reply = .answered false) ∧
      (queueMachine.final queue ops).get jobId = some job := by
  induction ops generalizing queue with
  | nil =>
      exact ⟨by simp, found⟩
  | cons op rest inductionHypothesis =>
      have move := queueMachine_moves admitted.1 jobId
      rw [found] at move
      obtain ⟨unchanged, notHandedOut, refused⟩ :=
        move.held ⟨claimed, owned, leased⟩
          (foreign op List.mem_cons_self) (early op List.mem_cons_self)
      obtain ⟨laterRecords, finalRecord⟩ :=
        inductionHypothesis (queueMachine.step queue op).1 unchanged
          admitted.2
          (fun later member => foreign later (List.mem_cons_of_mem op member))
          (fun later member => early later (List.mem_cons_of_mem op member))
      refine ⟨?_, finalRecord⟩
      intro executed member
      rcases List.mem_cons.mp member with isFirst | isLater
      · subst executed
        exact ⟨notHandedOut, refused⟩
      · exact laterRecords executed isLater

/-- At the deadline itself neither a claim nor a sweep takes the job over. -/
theorem leaseExclusivity_atDeadline :
    (queueMachine.final
        (queueMachine.final (.empty : InMemoryJobQueue Unit)
          [.enqueue (.default 1 "PLACE_ORDER") ⟨7, 0, 0⟩,
            .claim "first" 30 1])
        [.claim "second" 30 30000001,
          .complete 7 "second" 30000001,
          .recoverExpired 30000001]).get 7 =
      some ((EnqueueRequest.newJob (.default 1 "PLACE_ORDER")
        ⟨7, 0, 0⟩).taken "first" 30 1) :=
  (leaseExclusivity
    (queueMachine.final (.empty : InMemoryJobQueue Unit)
      [.enqueue (.default 1 "PLACE_ORDER") ⟨7, 0, 0⟩,
        .claim "first" 30 1])
    7
    ((EnqueueRequest.newJob (.default 1 "PLACE_ORDER")
      ⟨7, 0, 0⟩).taken "first" 30 1)
    "first" 30000001
    [.claim "second" 30 30000001,
      .complete 7 "second" 30000001,
      .recoverExpired 30000001]
    rfl rfl rfl rfl (by decide) (by decide) (by decide)).2

end SafeSignalTrader
