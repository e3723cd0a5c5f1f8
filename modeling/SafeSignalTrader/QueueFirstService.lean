import SafeSignalTrader.QueueAttempts

/-!
# First service is first-in first-out

No operation removes or reorders entries, and the claim scan starts at the
oldest one.  Unless a claim was raised after it wrote the status, a job that was
never claimed is pending, so a scan that reached a later job would have stopped
at it: a later job is never served before an earlier one has been served once.
-/

namespace SafeSignalTrader

open RunSemantics

variable {Value : Type}

/-- The ids of the jobs created during a run, in the order of creation. -/
def createdIds (records : List (QueueRecord Value)) : List UUID :=
  records.filterMap fun executed => executed.before.createdId? executed.op

/-- The store lists the jobs of a run in the order of their creation. -/
theorem createdIds_trace
    {ops : List (QueueOp Value)}
    (admitted : queueMachine.Admitted .empty ops) :
    createdIds (queueMachine.trace .empty ops) =
      (queueMachine.final .empty ops).jobs.keys := by
  refine queueMachine.historyInvariant
    (fun state past => createdIds past = state.jobs.keys) rfl ?_ admitted
  intro state past op listed fresh
  have keys :
      (queueMachine.step state op).1.jobs.keys =
        state.jobs.keys ++ (state.createdId? op).toList :=
    InMemoryJobQueue.keys_step fresh
  rw [keys, ← listed, createdIds, List.filterMap_append]
  exact congrArg (createdIds past ++ ·)
    (queueMachine.filterMap_execute InMemoryJobQueue.createdId? state op)

/-- A job no claim returned yet waits without an owner. -/
def WaitsUnserved (record : Option (OrderJob Value)) : Prop :=
  ∀ job, record = some job → job.attempt = 0 →
    job.status = .pending ∧ job.leaseOwner = none

/-- A job with an owner has been served. -/
theorem WaitsUnserved.served_of_owner
    {job : OrderJob Value}
    (waits : WaitsUnserved (some job))
    {owner : String}
    (owned : job.leaseOwner = some owner) :
    job.attempt ≠ 0 := by
  intro unserved
  have ownerless := (waits job rfl unserved).2
  rw [owned] at ownerless
  cases ownerless

/-- Only a claim ends the wait of an unserved job. -/
theorem JobMove.waitsUnserved
    {jobId : UUID}
    {op : QueueOp Value}
    {reply : QueueReply Value}
    {before after : Option (OrderJob Value)}
    (move : JobMove jobId op reply before after)
    (completes : op.CompletesOn before)
    (waits : WaitsUnserved before) :
    WaitsUnserved after := by
  intro job found unserved
  cases move with
  | untouched _ _ =>
      exact waits job found unserved
  | created request draw drawn =>
      cases found
      exact ⟨rfl, rfl⟩
  | taken old owner leaseSeconds now filed free ends =>
      cases found
      exact (Nat.succ_ne_zero old.attempt unserved).elim
  | seized old owner leaseSeconds now free overflows =>
      exact (overflows (completes old rfl free)).elim
  | extended old owner leaseSeconds now later owned claimed ends =>
      cases found
      exact (waits.served_of_owner owned unserved).elim
  | unextended old owner leaseSeconds now later owned claimed overflows =>
      exact waits job found unserved
  | finished old owner now owned =>
      cases found
      exact (waits.served_of_owner owned unserved).elim
  | failed old owner error now owned =>
      cases found
      exact (waits.served_of_owner owned unserved).elim
  | reviewed old owner reason now owned =>
      cases found
      exact (waits.served_of_owner owned unserved).elim
  | released old now count expired =>
      cases found
      exact ⟨rfl, rfl⟩

namespace InMemoryJobQueue

/-- A job that was just created has not been served. -/
theorem unserved_of_created
    {queue : InMemoryJobQueue Value}
    {op : QueueOp Value}
    {jobId : UUID}
    (fresh : queueMachine.admits queue op)
    (created : queue.createdId? op = some jobId) :
    attemptsOf ((queueMachine.step queue op).1.get jobId) = 0 := by
  rw [(queueMachine_moves fresh jobId).attempts]
  cases op with
  | enqueue request draw =>
      cases known : queue.findClientOrder request with
      | some job =>
          simp [createdId?, known] at created
      | none =>
          simp only [createdId?, known, Option.some.injEq] at created
          subst created
          have absent : queue.get draw.jobId = none := fresh known
          rw [absent]
          rfl
  | _ =>
      cases created

end InMemoryJobQueue

/-- A pair in order that does not end in the last element lies before it. -/
private theorem sublist_of_append_singleton
    {Item : Type}
    {first second last : Item}
    {items : List Item}
    (different : second ≠ last)
    (ordered : [first, second].Sublist (items ++ [last])) :
    [first, second].Sublist items := by
  rw [← List.reverse_sublist] at ordered ⊢
  simp only [List.reverse_append, List.reverse_cons, List.reverse_nil,
    List.nil_append, List.singleton_append] at ordered ⊢
  exact ordered.of_cons_of_ne different

namespace InMemoryJobQueue

/-- Whoever stands before a job that was served has been served, too. -/
def ServedInOrder (queue : InMemoryJobQueue Value) : Prop :=
  ∀ first second, [first, second].Sublist queue.jobs.keys →
    1 ≤ attemptsOf (queue.get second) → 1 ≤ attemptsOf (queue.get first)

/-- A claim passes over an earlier job only if that job has been served. -/
theorem served_of_passed
    {queue : InMemoryJobQueue Value}
    {first second : UUID}
    (waits : WaitsUnserved (queue.get first))
    (ordered : [first, second].Sublist queue.jobs.keys)
    {now : Instant}
    (scan : (queue.jobs.firstWhere? fun job => job.claimable now).map
      Prod.fst = some second) :
    1 ≤ attemptsOf (queue.get first) := by
  obtain ⟨⟨_, served⟩, stopped, rfl⟩ := Option.map_eq_some_iff.mp scan
  cases found : queue.get first with
  | none =>
      have absent := queue.jobs.get?_eq_none_iff.mp found
      exact (absent (ordered.subset (by simp))).elim
  | some job =>
      have refused := OrderedDict.refused_of_firstWhere? stopped ordered found
      by_contra unserved
      have pending := (waits job found (by
        simpa [attemptsOf] using unserved)).1
      rw [OrderJob.claimable_iff.mpr (Or.inl pending)] at refused
      cases refused

/-- A heartbeat hands out no job. -/
private theorem claimedId?_heartbeat
    (reply : Except PyException Bool)
    {jobId : UUID} :
    ¬ (QueueReply.ofHeartbeat reply : QueueReply Value).claimedId? =
      some jobId := by
  cases reply <;> simp [QueueReply.ofHeartbeat, QueueReply.claimedId?]

/-- A step keeps the order of service. -/
theorem ServedInOrder.step
    {queue : InMemoryJobQueue Value}
    {op : QueueOp Value}
    (inOrder : queue.ServedInOrder)
    (waits : ∀ jobId, WaitsUnserved (queue.get jobId))
    (fresh : queueMachine.admits queue op) :
    (queueMachine.step queue op).1.ServedInOrder := by
  intro first second ordered served
  have firstMove := (queueMachine_moves fresh first).attempts
  have secondMove := (queueMachine_moves fresh second).attempts
  have keys :
      (queueMachine.step queue op).1.jobs.keys =
        queue.jobs.keys ++ (queue.createdId? op).toList :=
    keys_step fresh
  have servedBefore :
      [first, second].Sublist queue.jobs.keys →
        1 ≤ attemptsOf (queue.get first) := by
    intro orderedBefore
    by_cases handedOut :
        (queueMachine.step queue op).2.claimedId? = some second
    · cases op with
      | claim owner leaseSeconds now =>
          exact served_of_passed (waits first) orderedBefore
            (scan_of_handsOut (QueueReply.handsOut_iff.mpr handedOut))
      | heartbeat jobId owner leaseSeconds now later =>
          exact (claimedId?_heartbeat _ handedOut).elim
      | _ =>
          cases handedOut
    · rw [secondMove, if_neg handedOut] at served
      exact inOrder first second orderedBefore served
  have before := servedBefore ?_
  · rw [firstMove]
    exact before.trans (Nat.le_add_right _ _)
  rw [keys] at ordered
  cases created : queue.createdId? op with
  | none =>
      simpa [created] using ordered
  | some jobId =>
      rw [created, Option.toList_some] at ordered
      refine sublist_of_append_singleton ?_ ordered
      rintro rfl
      rw [unserved_of_created fresh created] at served
      cases served

/-- A claim returns nothing exactly when its scan stops nowhere. -/
theorem claim_eq_none_iff
    {queue : InMemoryJobQueue Value}
    {owner : String}
    {now : Instant}
    {leaseSeconds : Int} :
    (queue.claim owner now leaseSeconds).2 = .ok none ↔
      ∀ jobId job, queue.get jobId = some job →
        job.claimable now = false := by
  have scanned :
      (queue.claim owner now leaseSeconds).2 = .ok none ↔
        queue.scan? now = none := by
    unfold claim
    cases queue.scan? now with
    | none =>
        simp
    | some entry =>
        by_cases ends : EndsInCalendar now leaseSeconds <;> simp [ends]
  exact scanned.trans OrderedDict.firstWhere?_eq_none_iff

end InMemoryJobQueue

/-- Service follows the order of creation while claims are not raised. -/
theorem servedInOrder_final
    {ops : List (QueueOp Value)}
    (admitted : queueMachine.Admitted .empty ops)
    (inCalendar : ∀ executed ∈ queueMachine.trace .empty ops,
      executed.before.ClaimsInCalendar executed.op) :
    (queueMachine.final .empty ops).ServedInOrder := by
  have both :
      (queueMachine.final .empty ops).ServedInOrder ∧
        ∀ jobId,
          WaitsUnserved ((queueMachine.final .empty ops).get jobId) := by
    refine queueMachine.invariant_restrict
      InMemoryJobQueue.ClaimsInCalendar
      (fun state => state.ServedInOrder ∧
        ∀ jobId, WaitsUnserved (state.get jobId)) ?_ ?_ admitted inCalendar
    · rintro state op ⟨inOrder, waits⟩ fresh inCalendarHere
      exact ⟨inOrder.step waits fresh, fun jobId =>
        (queueMachine_moves fresh jobId).waitsUnserved
          (inCalendarHere.completesOn jobId) (waits jobId)⟩
    · refine ⟨?_, ?_⟩
      · intro first second ordered
        exact (List.not_mem_nil (ordered.subset List.mem_cons_self)).elim
      · intro jobId job impossible
        cases impossible
  exact both.1

/-- A job out of a claim's reach is settled or under a running lease. -/
theorem OrderJob.Consistent.of_not_claimable
    {job : OrderJob Value}
    {now : Instant}
    (consistent : job.Consistent)
    (leased : job.Leased)
    (refused : job.claimable now = false) :
    job.status = .completed ∨ job.status = .manualReview ∨
      (job.status = .claimed ∧
        ∃ deadline, job.leaseUntil = some deadline ∧ now ≤ deadline) := by
  have notFree : ¬ job.claimable now = true := by simp [refused]
  rw [OrderJob.claimable_iff, OrderJob.leaseExpired_iff, not_or] at notFree
  rcases consistent.status with pending | claimed | completed | review
  · exact (notFree.1 pending).elim
  · have owned := consistent.owned.mp claimed
    obtain ⟨deadline, ends⟩ := Option.isSome_iff_exists.mp (leased owned)
    refine Or.inr (Or.inr ⟨claimed, deadline, ends, ?_⟩)
    by_contra passed
    exact notFree.2 ⟨claimed, deadline, ends, not_le.mp passed⟩
  · exact Or.inl completed
  · exact Or.inr (Or.inl review)

/--
First service is first-in first-out in every run whose claims ask for leases
that end in the calendar: after it, a job created before one that has been
claimed has been claimed itself, and a claim comes back empty only if every job
is settled or held under a lease that has not passed.
-/
theorem firstServiceInOrder
    (ops : List (QueueOp Value))
    (admitted : queueMachine.Admitted .empty ops)
    (inCalendar : ∀ executed ∈ queueMachine.trace .empty ops,
      executed.before.ClaimsInCalendar executed.op) :
    (∀ first second,
        [first, second].Sublist
            (createdIds (queueMachine.trace .empty ops)) →
        ∀ job, (queueMachine.final .empty ops).get second = some job →
          1 ≤ job.attempt →
            1 ≤ claimsOf first (queueMachine.trace .empty ops) ∧
            ∃ earlier,
              (queueMachine.final .empty ops).get first = some earlier ∧
                1 ≤ earlier.attempt) ∧
      ∀ owner leaseSeconds now,
        ((queueMachine.final .empty ops).claim owner now leaseSeconds).2 =
            .ok none →
          ∀ jobId job,
            (queueMachine.final .empty ops).get jobId = some job →
              job.status = .completed ∨ job.status = .manualReview ∨
                (job.status = .claimed ∧
                  ∃ deadline,
                    job.leaseUntil = some deadline ∧ now ≤ deadline) := by
  have reachable : QueueReachable (queueMachine.final .empty ops) :=
    ⟨ops, admitted, rfl⟩
  refine ⟨?_, ?_⟩
  · intro first second created job found served
    rw [createdIds_trace admitted] at created
    have firstServed :=
      servedInOrder_final admitted inCalendar first second created (by
        rw [found]
        exact served)
    refine ⟨(claimsOf_trace admitted first).symm ▸ firstServed, ?_⟩
    cases located : (queueMachine.final .empty ops).get first with
    | none =>
        rw [located] at firstServed
        cases firstServed
    | some earlier =>
        rw [located] at firstServed
        exact ⟨earlier, rfl, firstServed⟩
  · intro owner leaseSeconds now refused jobId job found
    exact (reachable.consistent found).of_not_claimable
      (leased_final admitted inCalendar found)
      (InMemoryJobQueue.claim_eq_none_iff.mp refused jobId job found)

/--
The first of two jobs fails and is retried before the second is served; while
both leases run, a claim comes back empty.
-/
theorem firstServiceInOrder_retried :
    let ops : List (QueueOp Unit) :=
      [.enqueue (.default 1 "PLACE_ORDER") ⟨7, 0, 0⟩,
        .enqueue (.default 2 "PLACE_ORDER") ⟨8, 1, 1⟩,
        .claim "first" 30 2, .fail 7 "first" "timeout" 3,
        .claim "first" 30 4, .claim "second" 30 5]
    1 ≤ claimsOf 7 (queueMachine.trace .empty ops) ∧
      ∀ job, (queueMachine.final .empty ops).get 8 = some job →
        job.status = .completed ∨ job.status = .manualReview ∨
          (job.status = .claimed ∧
            ∃ deadline, job.leaseUntil = some deadline ∧ 6 ≤ deadline) :=
  ⟨((firstServiceInOrder _ (by decide) (by decide)).1 7 8 (by decide) _ rfl
      (by decide)).1,
    (firstServiceInOrder _ (by decide) (by decide)).2 "third" 30 6 rfl 8⟩

/-- A claim that overflows on the first of two jobs lets the second overtake. -/
theorem overflowed_claim_overtaken :
    ¬ ∀ ops, queueMachine.Admitted (.empty : InMemoryJobQueue Unit) ops →
      ∀ first second,
        [first, second].Sublist
            (createdIds (queueMachine.trace .empty ops)) →
        ∀ job, (queueMachine.final .empty ops).get second = some job →
          1 ≤ job.attempt →
            1 ≤ claimsOf first (queueMachine.trace .empty ops) := by
  intro inOrder
  have overrun := inOrder
    [.enqueue (.default 1 "PLACE_ORDER") ⟨7, 0, 0⟩,
      .enqueue (.default 2 "PLACE_ORDER") ⟨8, 1, 1⟩,
      .claim "first" 1000000000000 2,
      .claim "second" 30 3]
    (by decide) 7 8 (by decide) _ rfl (by decide)
  revert overrun
  decide

end SafeSignalTrader
