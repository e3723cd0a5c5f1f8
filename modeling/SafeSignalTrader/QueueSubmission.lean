import SafeSignalTrader.QueueJobMoves
import Mathlib.Data.Finset.Card
import Mathlib.Data.Finset.Dedup

/-!
# Idempotent submission

`enqueue` looks for the client order id among the stored jobs.  No other call
touches an id or drops a job, so the stored non-empty ids are exactly the ids
supplied so far, each carried by one job: the one its first enqueue created.
-/

namespace SafeSignalTrader

open RunSemantics

variable {Value : Type}

/-- The part of a record that no call changes after its creation. -/
structure JobIdentity (Value : Type) where
  jobId : UUID
  tradeId : UUID
  payload : OrderedDict String Value
  clientOrderId : Option String

/-- The unchanging part of a record. -/
def OrderJob.identity (job : OrderJob Value) : JobIdentity Value where
  jobId := job.jobId
  tradeId := job.tradeId
  payload := job.payload
  clientOrderId := job.clientOrderId

/-- The request an enqueue is called with. -/
def QueueOp.request? : QueueOp Value → Option (EnqueueRequest Value)
  | .enqueue request _ => some request
  | _ => none

/-- The non-empty client order ids supplied by the enqueues of a run. -/
def submittedIds (ops : List (QueueOp Value)) : List String :=
  (ops.filterMap QueueOp.request?).filterMap EnqueueRequest.dedupId?

/-- The number of enqueues of a run without a client order id. -/
def idlessEnqueues (ops : List (QueueOp Value)) : Nat :=
  (ops.filterMap QueueOp.request?).countP
    fun request => request.dedupId?.isNone

theorem EnqueueRequest.dedupId?_eq_some_iff
    {request : EnqueueRequest Value}
    {clientOrderId : String} :
    request.dedupId? = some clientOrderId ↔
      request.clientOrderId = some clientOrderId ∧ clientOrderId ≠ "" := by
  simp [dedupId?, Option.filter_eq_some_iff]

/-- Every call but the creating one keeps the identity of a record. -/
theorem JobMove.identity
    {jobId : UUID}
    {op : QueueOp Value}
    {reply : QueueReply Value}
    {before after : Option (OrderJob Value)}
    (move : JobMove jobId op reply before after)
    {job : OrderJob Value}
    (found : before = some job) :
    after.map OrderJob.identity = some job.identity := by
  cases move with
  | created request draw drawn =>
      cases found
  | _ =>
      cases found
      rfl

namespace InMemoryJobQueue

variable {queue : InMemoryJobQueue Value}

/-- The scan for a client order id stops at a job that carries it. -/
theorem findClientOrder_eq_some
    {request : EnqueueRequest Value}
    {job : OrderJob Value}
    (known : queue.findClientOrder request = some job) :
    ∃ clientOrderId,
      request.dedupId? = some clientOrderId ∧
        queue.get job.jobId = some job ∧
          job.clientOrderId = some clientOrderId := by
  unfold findClientOrder at known
  cases supplied : request.dedupId? with
  | none =>
      simp [supplied] at known
  | some clientOrderId =>
      simp only [supplied, Option.map_eq_some_iff] at known
      obtain ⟨⟨jobId, scanned⟩, scan, rfl⟩ := known
      obtain ⟨found, carries⟩ := OrderedDict.get?_of_firstWhere? scan
      have filed : scanned.jobId = jobId := queue.keyed jobId scanned found
      exact ⟨clientOrderId, rfl, by rw [filed]; exact found,
        of_decide_eq_true carries⟩

/-- The scan fails exactly if no job carries the supplied id. -/
theorem findClientOrder_eq_none_iff
    {request : EnqueueRequest Value} :
    queue.findClientOrder request = none ↔
      ∀ clientOrderId, request.dedupId? = some clientOrderId →
        ∀ jobId job, queue.get jobId = some job →
          job.clientOrderId ≠ some clientOrderId := by
  unfold findClientOrder
  cases request.dedupId? with
  | none =>
      simp
  | some clientOrderId =>
      simp only [Option.map_eq_none_iff, OrderedDict.firstWhere?_eq_none_iff,
        decide_eq_false_iff_not, Option.some.injEq, forall_eq', get]

/-- A request whose id is found returns that job and changes nothing. -/
theorem enqueue_of_found
    {request : EnqueueRequest Value}
    {job : OrderJob Value}
    (draw : EnqueueDraw)
    (scan : queue.findClientOrder request = some job) :
    queue.enqueue request draw = (queue, job) := by
  simp [enqueue, scan]

/-- A request whose id is not found stores and returns a new job. -/
theorem enqueue_of_not_found
    {request : EnqueueRequest Value}
    (draw : EnqueueDraw)
    (scan : queue.findClientOrder request = none) :
    queue.enqueue request draw =
      (queue.store (request.newJob draw), request.newJob draw) := by
  simp [enqueue, scan]

/-- A call other than enqueue keeps the number of jobs. -/
theorem size_step
    {op : QueueOp Value}
    (quiet : op.request? = none) :
    (queue.step op).1.size = queue.size := by
  have fresh : queue.DrawsFresh op ∧ queue.createdId? op = none := by
    cases op with
    | enqueue request draw =>
        cases quiet
    | _ =>
        exact ⟨trivial, rfl⟩
  have keys := keys_step fresh.1
  rw [fresh.2, Option.toList_none, List.append_nil] at keys
  have lengths := congrArg List.length keys
  simpa [size, OrderedDict.size, OrderedDict.keys] using lengths

/-- A call other than enqueue keeps the identity of every record. -/
theorem identity_step
    {op : QueueOp Value}
    (quiet : op.request? = none)
    (jobId : UUID) :
    ((queue.step op).1.get jobId).map OrderJob.identity =
      (queue.get jobId).map OrderJob.identity := by
  have fresh : queue.DrawsFresh op := by
    cases op with
    | enqueue request draw =>
        cases quiet
    | _ =>
        trivial
  have move := step_moves fresh jobId
  cases found : queue.get jobId with
  | some job =>
      exact move.identity found
  | none =>
      rw [found] at move
      generalize afterShape : (queue.step op).1.get jobId = after at move
      generalize replyShape : (queue.step op).2 = reply at move
      cases move with
      | untouched _ _ =>
          rfl
      | created request draw drawn =>
          cases quiet

/-- The client order id on the record of a job. -/
def carriedId? (queue : InMemoryJobQueue Value) (jobId : UUID) :
    Option String :=
  (queue.get jobId).bind OrderJob.clientOrderId

/-- A call other than enqueue keeps the client order id of every record. -/
theorem carriedId?_step
    {op : QueueOp Value}
    (quiet : op.request? = none)
    (jobId : UUID) :
    (queue.step op).1.carriedId? jobId = queue.carriedId? jobId := by
  have ofIdentity :
      ∀ record : Option (OrderJob Value),
        record.bind OrderJob.clientOrderId =
          (record.map OrderJob.identity).bind JobIdentity.clientOrderId := by
    intro record
    cases record <;> rfl
  rw [carriedId?, carriedId?, ofIdentity, ofIdentity, identity_step quiet]

/-- A created job carries the id of its request; other jobs keep theirs. -/
theorem carriedId?_store
    (request : EnqueueRequest Value)
    (draw : EnqueueDraw)
    (jobId : UUID) :
    (queue.store (request.newJob draw)).carriedId? jobId =
      if jobId = draw.jobId then
        request.clientOrderId
      else
        queue.carriedId? jobId := by
  rw [carriedId?, get_store]
  by_cases created : jobId = draw.jobId
  · rw [if_pos created, if_pos (by exact created)]
    rfl
  · rw [if_neg created, if_neg (by exact created)]
    rfl

/-- An id that no stored job has is carried by no job. -/
theorem carriedId?_of_fresh
    {jobId : UUID}
    (fresh : queue.get jobId = none) :
    queue.carriedId? jobId = none := by
  rw [carriedId?, fresh]
  rfl

/-- Creating a job under a fresh id disturbs no id carried before. -/
theorem carriedId?_store_of_carried
    {request : EnqueueRequest Value}
    {draw : EnqueueDraw}
    {jobId : UUID}
    {clientOrderId : String}
    (fresh : queue.get draw.jobId = none)
    (carried : queue.carriedId? jobId = some clientOrderId) :
    (queue.store (request.newJob draw)).carriedId? jobId =
      some clientOrderId := by
  have notCreated : jobId ≠ draw.jobId := by
    intro created
    subst created
    rw [carriedId?_of_fresh fresh] at carried
    cases carried
  rw [carriedId?_store, if_neg notCreated]
  exact carried

/-- Creating a job adds one to the number of jobs. -/
theorem size_store
    {request : EnqueueRequest Value}
    {draw : EnqueueDraw}
    (fresh : queue.get draw.jobId = none) :
    (queue.store (request.newJob draw)).jobs.entries =
        queue.jobs.entries ++ [(draw.jobId, request.newJob draw)] ∧
      (queue.store (request.newJob draw)).size = queue.size + 1 := by
  have grown :
      (queue.store (request.newJob draw)).jobs.entries =
        queue.jobs.entries ++ [(draw.jobId, request.newJob draw)] :=
    OrderedDict.entries_set_of_fresh _ _ fresh
  refine ⟨grown, ?_⟩
  rw [size, size, OrderedDict.size, OrderedDict.size, grown,
    List.length_append, List.length_singleton]

end InMemoryJobQueue

section Counting

variable (ops : List (QueueOp Value))

theorem submittedIds_append_enqueue
    (request : EnqueueRequest Value)
    (draw : EnqueueDraw) :
    submittedIds (ops ++ [.enqueue request draw]) =
      submittedIds ops ++ request.dedupId?.toList := by
  cases supplied : request.dedupId? <;>
    simp [submittedIds, List.filterMap_append, QueueOp.request?, supplied]

theorem submittedIds_append_quiet
    {op : QueueOp Value}
    (quiet : op.request? = none) :
    submittedIds (ops ++ [op]) = submittedIds ops := by
  simp [submittedIds, List.filterMap_append, quiet]

theorem idlessEnqueues_append_enqueue
    (request : EnqueueRequest Value)
    (draw : EnqueueDraw) :
    idlessEnqueues (ops ++ [.enqueue request draw]) =
      idlessEnqueues ops + if request.dedupId?.isNone then 1 else 0 := by
  simp [idlessEnqueues, List.filterMap_append, QueueOp.request?,
    List.countP_append, List.countP_singleton]

theorem idlessEnqueues_append_quiet
    {op : QueueOp Value}
    (quiet : op.request? = none) :
    idlessEnqueues (ops ++ [op]) = idlessEnqueues ops := by
  simp [idlessEnqueues, List.filterMap_append, quiet]

/-- Submitting an id again counts no further job. -/
theorem count_append_known
    {request : EnqueueRequest Value}
    {clientOrderId : String}
    (supplied : request.dedupId? = some clientOrderId)
    (known : clientOrderId ∈ submittedIds ops)
    (draw : EnqueueDraw) :
    (submittedIds (ops ++ [.enqueue request draw])).toFinset.card +
        idlessEnqueues (ops ++ [.enqueue request draw]) =
      (submittedIds ops).toFinset.card + idlessEnqueues ops := by
  have sameIds :
      (submittedIds ops ++ [clientOrderId]).toFinset =
        (submittedIds ops).toFinset := by
    rw [List.toFinset_append, List.toFinset_cons, List.toFinset_nil]
    apply Finset.union_eq_left.mpr
    intro other member
    rw [insert_empty_eq, Finset.mem_singleton] at member
    subst member
    exact List.mem_toFinset.mpr known
  rw [submittedIds_append_enqueue, idlessEnqueues_append_enqueue, supplied,
    Option.toList_some, sameIds]
  rfl

/-- Submitting an unused id, or none, counts one job more. -/
theorem count_append_unused
    {request : EnqueueRequest Value}
    (unused : ∀ clientOrderId, request.dedupId? = some clientOrderId →
      clientOrderId ∉ submittedIds ops)
    (draw : EnqueueDraw) :
    (submittedIds (ops ++ [.enqueue request draw])).toFinset.card +
        idlessEnqueues (ops ++ [.enqueue request draw]) =
      (submittedIds ops).toFinset.card + idlessEnqueues ops + 1 := by
  rw [submittedIds_append_enqueue, idlessEnqueues_append_enqueue]
  cases supplied : request.dedupId? with
  | none =>
      simp [Nat.add_assoc]
  | some clientOrderId =>
      have notListed : clientOrderId ∉ (submittedIds ops).toFinset := by
        rw [List.mem_toFinset]
        exact unused clientOrderId supplied
      simp only [Option.toList_some, List.toFinset_append,
        List.toFinset_cons, List.toFinset_nil, insert_empty_eq,
        Finset.union_singleton, Finset.card_insert_of_notMem notListed,
        Option.isNone_some, Bool.false_eq_true, ↓reduceIte]
      exact Nat.add_right_comm ..

end Counting

/-- What the stored ids say about the enqueues of the run so far. -/
structure Ledger
    (queue : InMemoryJobQueue Value)
    (past : List (QueueRecord Value)) : Prop where
  submitted :
    ∀ clientOrderId,
      clientOrderId ∈ submittedIds (past.map Executed.op) ↔
        clientOrderId ≠ "" ∧
          ∃ jobId, queue.carriedId? jobId = some clientOrderId
  unique :
    ∀ first second clientOrderId, clientOrderId ≠ "" →
      queue.carriedId? first = some clientOrderId →
        queue.carriedId? second = some clientOrderId → first = second
  answered :
    ∀ executed ∈ past, ∀ request draw job clientOrderId,
      executed.op = .enqueue request draw →
        executed.reply = .enqueued job →
          request.dedupId? = some clientOrderId →
            queue.carriedId? job.jobId = some clientOrderId
  counted :
    queue.size =
      (submittedIds (past.map Executed.op)).toFinset.card +
        idlessEnqueues (past.map Executed.op)

namespace Ledger

variable {queue : InMemoryJobQueue Value}
variable {past : List (QueueRecord Value)}

/-- The empty queue has an empty ledger. -/
theorem initially : Ledger (.empty : InMemoryJobQueue Value) [] where
  submitted := by
    intro clientOrderId
    simp [submittedIds, InMemoryJobQueue.carriedId?]
  unique := by
    intro first second clientOrderId _ carried
    cases carried
  answered := by
    intro executed member
    cases member
  counted := rfl

/-- A call other than enqueue keeps the ledger. -/
theorem quiet_step
    (ledger : Ledger queue past)
    {op : QueueOp Value}
    (quiet : op.request? = none) :
    Ledger (queueMachine.step queue op).1
      (past ++ [queueMachine.execute queue op]) := by
  have sameIds :
      ∀ jobId,
        (queueMachine.step queue op).1.carriedId? jobId =
          queue.carriedId? jobId :=
    InMemoryJobQueue.carriedId?_step quiet
  have sameSize :
      (queueMachine.step queue op).1.size = queue.size :=
    InMemoryJobQueue.size_step quiet
  constructor
  · intro clientOrderId
    rw [List.map_append, List.map_singleton, Machine.execute_op,
      submittedIds_append_quiet _ quiet]
    simp only [sameIds]
    exact ledger.submitted clientOrderId
  · intro first second clientOrderId
    rw [sameIds, sameIds]
    exact ledger.unique first second clientOrderId
  · intro executed member request draw job clientOrderId called
    rw [sameIds]
    rcases List.mem_append.mp member with earlier | isLast
    · exact ledger.answered executed earlier request draw job
        clientOrderId called
    · rw [List.mem_singleton.mp isLast] at called
      rw [Machine.execute_op] at called
      rw [called] at quiet
      cases quiet
  · rw [List.map_append, List.map_singleton, Machine.execute_op,
      submittedIds_append_quiet _ quiet, idlessEnqueues_append_quiet _ quiet,
      sameSize]
    exact ledger.counted

/-- An id is already on the ledger exactly if the scan finds its job. -/
theorem findClientOrder_eq_none_iff
    (ledger : Ledger queue past)
    (request : EnqueueRequest Value) :
    queue.findClientOrder request = none ↔
      ∀ clientOrderId, request.dedupId? = some clientOrderId →
        clientOrderId ∉ submittedIds (past.map Executed.op) := by
  rw [InMemoryJobQueue.findClientOrder_eq_none_iff]
  constructor
  · intro absent clientOrderId supplied member
    obtain ⟨_, jobId, carried⟩ :=
      (ledger.submitted clientOrderId).mp member
    obtain ⟨job, found, carries⟩ := Option.bind_eq_some_iff.mp carried
    exact absent clientOrderId supplied jobId job found carries
  · intro unused clientOrderId supplied jobId job found carries
    apply unused clientOrderId supplied
    apply (ledger.submitted clientOrderId).mpr
    refine ⟨(EnqueueRequest.dedupId?_eq_some_iff.mp supplied).2, jobId, ?_⟩
    exact Option.bind_eq_some_iff.mpr ⟨job, found, carries⟩

/-- Enqueueing an id of the ledger again keeps the ledger. -/
theorem known_step
    (ledger : Ledger queue past)
    {request : EnqueueRequest Value}
    {draw : EnqueueDraw}
    {known : OrderJob Value}
    (scan : queue.findClientOrder request = some known) :
    Ledger queue
      (past ++ [queueMachine.execute queue (.enqueue request draw)]) := by
  obtain ⟨suppliedId, supplied, found, carries⟩ :=
    InMemoryJobQueue.findClientOrder_eq_some scan
  have knownId : queue.carriedId? known.jobId = some suppliedId :=
    Option.bind_eq_some_iff.mpr ⟨known, found, carries⟩
  have onLedger : suppliedId ∈ submittedIds (past.map Executed.op) :=
    (ledger.submitted suppliedId).mpr
      ⟨(EnqueueRequest.dedupId?_eq_some_iff.mp supplied).2,
        known.jobId, knownId⟩
  constructor
  · intro clientOrderId
    rw [List.map_append, List.map_singleton, Machine.execute_op,
      submittedIds_append_enqueue, supplied, List.mem_append,
      Option.toList_some, List.mem_singleton,
      ← ledger.submitted clientOrderId]
    constructor
    · intro submitted
      rcases submitted with earlier | rfl
      · exact earlier
      · exact onLedger
    · exact Or.inl
  · exact ledger.unique
  · intro executed member otherRequest otherDraw job clientOrderId called
      replied otherSupplied
    rcases List.mem_append.mp member with earlier | isLast
    · exact ledger.answered executed earlier otherRequest otherDraw job
        clientOrderId called replied otherSupplied
    · rw [List.mem_singleton.mp isLast] at called replied
      cases called
      have sameJob : known = job := by
        simpa [queueMachine, InMemoryJobQueue.step,
          InMemoryJobQueue.enqueue, scan] using replied
      rw [supplied, Option.some.injEq] at otherSupplied
      rw [← sameJob, ← otherSupplied]
      exact knownId
  · rw [List.map_append, List.map_singleton, Machine.execute_op,
      count_append_known _ supplied onLedger]
    exact ledger.counted

/-- Enqueueing a fresh or missing id extends the ledger by one job. -/
theorem new_step
    (ledger : Ledger queue past)
    {request : EnqueueRequest Value}
    {draw : EnqueueDraw}
    (scan : queue.findClientOrder request = none)
    (fresh : queue.get draw.jobId = none) :
    Ledger (queue.store (request.newJob draw))
      (past ++ [queueMachine.execute queue (.enqueue request draw)]) := by
  have unused := (ledger.findClientOrder_eq_none_iff request).mp scan
  have notCarried :
      ∀ jobId clientOrderId, clientOrderId ≠ "" →
        request.clientOrderId = some clientOrderId →
          queue.carriedId? jobId ≠ some clientOrderId := by
    intro jobId clientOrderId nonempty supplied carried
    exact unused clientOrderId
      (EnqueueRequest.dedupId?_eq_some_iff.mpr ⟨supplied, nonempty⟩)
      ((ledger.submitted clientOrderId).mpr ⟨nonempty, jobId, carried⟩)
  constructor
  · intro clientOrderId
    rw [List.map_append, List.map_singleton, Machine.execute_op,
      submittedIds_append_enqueue, List.mem_append, ledger.submitted,
      Option.mem_toList, EnqueueRequest.dedupId?_eq_some_iff]
    constructor
    · intro submitted
      rcases submitted with ⟨nonempty, jobId, carried⟩ | ⟨supplied, nonempty⟩
      · exact ⟨nonempty, jobId,
          InMemoryJobQueue.carriedId?_store_of_carried fresh carried⟩
      · refine ⟨nonempty, draw.jobId, ?_⟩
        rw [InMemoryJobQueue.carriedId?_store, if_pos rfl]
        exact supplied
    · intro submitted
      obtain ⟨nonempty, jobId, carried⟩ := submitted
      rw [InMemoryJobQueue.carriedId?_store] at carried
      by_cases created : jobId = draw.jobId
      · rw [if_pos created] at carried
        exact Or.inr ⟨carried, nonempty⟩
      · rw [if_neg created] at carried
        exact Or.inl ⟨nonempty, jobId, carried⟩
  · intro first second clientOrderId nonempty
    rw [InMemoryJobQueue.carriedId?_store,
      InMemoryJobQueue.carriedId?_store]
    by_cases firstNew : first = draw.jobId <;>
      by_cases secondNew : second = draw.jobId
    · intro _ _
      rw [firstNew, secondNew]
    · rw [if_pos firstNew, if_neg secondNew]
      intro supplied carried
      exact (notCarried second clientOrderId nonempty supplied
        carried).elim
    · rw [if_neg firstNew, if_pos secondNew]
      intro carried supplied
      exact (notCarried first clientOrderId nonempty supplied carried).elim
    · rw [if_neg firstNew, if_neg secondNew]
      exact ledger.unique first second clientOrderId nonempty
  · intro executed member otherRequest otherDraw job clientOrderId called
      replied supplied
    rcases List.mem_append.mp member with earlier | isLast
    · exact InMemoryJobQueue.carriedId?_store_of_carried fresh
        (ledger.answered executed earlier otherRequest otherDraw job
          clientOrderId called replied supplied)
    · rw [List.mem_singleton.mp isLast] at called replied
      cases called
      have sameJob : request.newJob draw = job := by
        simpa [queueMachine, InMemoryJobQueue.step,
          InMemoryJobQueue.enqueue, scan] using replied
      rw [← sameJob, InMemoryJobQueue.carriedId?_store, if_pos (by rfl)]
      exact (EnqueueRequest.dedupId?_eq_some_iff.mp supplied).1
  · rw [(InMemoryJobQueue.size_store fresh).2, ledger.counted,
      List.map_append, List.map_singleton, Machine.execute_op,
      count_append_unused _ unused]

/-- Every admitted call extends the ledger. -/
theorem step
    (ledger : Ledger queue past)
    {op : QueueOp Value}
    (fresh : queueMachine.admits queue op) :
    Ledger (queueMachine.step queue op).1
      (past ++ [queueMachine.execute queue op]) := by
  cases op with
  | enqueue request draw =>
      cases scan : queue.findClientOrder request with
      | some known =>
          have unchanged :
              (queueMachine.step queue (.enqueue request draw)).1 =
                queue := by
            simp [queueMachine, InMemoryJobQueue.step,
              InMemoryJobQueue.enqueue_of_found draw scan]
          rw [unchanged]
          exact ledger.known_step scan
      | none =>
          have stored :
              (queueMachine.step queue (.enqueue request draw)).1 =
                queue.store (request.newJob draw) := by
            simp [queueMachine, InMemoryJobQueue.step,
              InMemoryJobQueue.enqueue_of_not_found draw scan]
          rw [stored]
          exact ledger.new_step scan (fresh scan)
  | _ =>
      exact ledger.quiet_step rfl

/-- The ledger of a whole run. -/
theorem of_run
    {ops : List (QueueOp Value)}
    (admitted : queueMachine.Admitted .empty ops) :
    Ledger (queueMachine.final .empty ops)
      (queueMachine.trace .empty ops) :=
  queueMachine.historyInvariant Ledger initially
    (fun _ _ _ ledger fresh => ledger.step fresh) admitted

/-- Enqueueing an id some job carries returns that job. -/
theorem enqueue_carried
    (ledger : Ledger queue past)
    {jobId : UUID}
    {clientOrderId : String}
    (carried : queue.carriedId? jobId = some clientOrderId)
    (nonempty : clientOrderId ≠ "")
    {request : EnqueueRequest Value}
    (supplied : request.clientOrderId = some clientOrderId)
    (draw : EnqueueDraw) :
    ∃ job,
      queue.get jobId = some job ∧
        queue.enqueue request draw = (queue, job) := by
  have deduplicated : request.dedupId? = some clientOrderId :=
    EnqueueRequest.dedupId?_eq_some_iff.mpr ⟨supplied, nonempty⟩
  cases scan : queue.findClientOrder request with
  | none =>
      have onLedger :=
        (ledger.submitted clientOrderId).mpr ⟨nonempty, jobId, carried⟩
      exact ((ledger.findClientOrder_eq_none_iff request).mp scan
        clientOrderId deduplicated onLedger).elim
  | some job =>
      obtain ⟨foundId, foundSupplied, found, carries⟩ :=
        InMemoryJobQueue.findClientOrder_eq_some scan
      rw [deduplicated, Option.some.injEq] at foundSupplied
      subst foundSupplied
      have sameJob : job.jobId = jobId :=
        ledger.unique _ _ clientOrderId nonempty
          (Option.bind_eq_some_iff.mpr ⟨job, found, carries⟩) carried
      rw [sameJob] at found
      exact ⟨job, found, InMemoryJobQueue.enqueue_of_found draw scan⟩

/-- Enqueueing an id never submitted, or none, stores a new job. -/
theorem enqueue_unused
    (ledger : Ledger queue past)
    {request : EnqueueRequest Value}
    (unused : ∀ clientOrderId, request.clientOrderId = some clientOrderId →
      clientOrderId ≠ "" →
        clientOrderId ∉ submittedIds (past.map Executed.op))
    (draw : EnqueueDraw) :
    queue.enqueue request draw =
      (queue.store (request.newJob draw), request.newJob draw) := by
  apply InMemoryJobQueue.enqueue_of_not_found draw
  rw [ledger.findClientOrder_eq_none_iff]
  intro clientOrderId supplied
  obtain ⟨named, nonempty⟩ :=
    EnqueueRequest.dedupId?_eq_some_iff.mp supplied
  exact unused clientOrderId named nonempty

end Ledger

/-- Every later record of a job has the identity it was created with. -/
theorem identity_final
    {queue : InMemoryJobQueue Value}
    {ops : List (QueueOp Value)}
    (admitted : queueMachine.Admitted queue ops)
    {jobId : UUID}
    {job : OrderJob Value}
    (found : queue.get jobId = some job) :
    ((queueMachine.final queue ops).get jobId).map OrderJob.identity =
      some job.identity :=
  queueMachine.invariant
    (fun state =>
      (state.get jobId).map OrderJob.identity = some job.identity)
    (fun state op kept fresh => by
      obtain ⟨current, located, sameIdentity⟩ :=
        Option.map_eq_some_iff.mp kept
      rw [← sameIdentity]
      exact (queueMachine_moves fresh jobId).identity located)
    (by rw [found]; rfl) admitted

/--
Idempotent submission.  After any run no two jobs carry one non-empty client
order id; the ids, trade and payload of a job never change; enqueueing an id
used before returns the job its first enqueue returned and changes nothing;
enqueueing a fresh or missing id appends one pending job and changes no other;
and there are as many jobs as distinct ids and id-less enqueues together.
-/
theorem idempotentSubmission
    (ops : List (QueueOp Value))
    (admitted : queueMachine.Admitted .empty ops) :
    (∀ first second firstJob secondJob clientOrderId,
        (queueMachine.final .empty ops).get first = some firstJob →
        (queueMachine.final .empty ops).get second = some secondJob →
        firstJob.clientOrderId = some clientOrderId →
        secondJob.clientOrderId = some clientOrderId →
        clientOrderId ≠ "" → first = second) ∧
      (∀ later, queueMachine.Admitted (queueMachine.final .empty ops) later →
        ∀ jobId job, (queueMachine.final .empty ops).get jobId = some job →
          ∃ after,
            (queueMachine.final (queueMachine.final .empty ops) later).get
                jobId = some after ∧
              after.jobId = job.jobId ∧
              after.tradeId = job.tradeId ∧
              after.payload = job.payload ∧
              after.clientOrderId = job.clientOrderId) ∧
      (∀ executed ∈ queueMachine.trace .empty ops,
        ∀ earlierRequest earlierDraw earlierJob clientOrderId,
          executed.op = .enqueue earlierRequest earlierDraw →
          executed.reply = .enqueued earlierJob →
          earlierRequest.clientOrderId = some clientOrderId →
          clientOrderId ≠ "" →
          ∀ request draw, request.clientOrderId = some clientOrderId →
            ∃ job,
              (queueMachine.final .empty ops).get earlierJob.jobId =
                  some job ∧
                (queueMachine.final .empty ops).enqueue request draw =
                  (queueMachine.final .empty ops, job)) ∧
      (∀ request draw,
        (queueMachine.final .empty ops).get draw.jobId = none →
        (∀ clientOrderId, request.clientOrderId = some clientOrderId →
          clientOrderId ≠ "" → clientOrderId ∉ submittedIds ops) →
        ((queueMachine.final .empty ops).enqueue request draw).1.jobs.entries =
            (queueMachine.final .empty ops).jobs.entries ++
              [(draw.jobId, request.newJob draw)] ∧
          ((queueMachine.final .empty ops).enqueue request draw).2 =
            request.newJob draw ∧
          (request.newJob draw).status = .pending) ∧
      (queueMachine.final .empty ops).size =
        (submittedIds ops).toFinset.card + idlessEnqueues ops := by
  have ledger := Ledger.of_run admitted
  have sameOps : (queueMachine.trace .empty ops).map Executed.op = ops :=
    queueMachine.trace_map_op .empty ops
  refine ⟨?_, ?_, ?_, ?_, ?_⟩
  · intro first second firstJob secondJob clientOrderId firstFound
      secondFound firstCarries secondCarries nonempty
    exact ledger.unique first second clientOrderId nonempty
      (Option.bind_eq_some_iff.mpr ⟨firstJob, firstFound, firstCarries⟩)
      (Option.bind_eq_some_iff.mpr ⟨secondJob, secondFound, secondCarries⟩)
  · intro later laterAdmitted jobId job found
    obtain ⟨after, located, sameIdentity⟩ :=
      Option.map_eq_some_iff.mp (identity_final laterAdmitted found)
    exact ⟨after, located,
      congrArg JobIdentity.jobId sameIdentity,
      congrArg JobIdentity.tradeId sameIdentity,
      congrArg JobIdentity.payload sameIdentity,
      congrArg JobIdentity.clientOrderId sameIdentity⟩
  · intro executed member earlierRequest earlierDraw earlierJob
      clientOrderId called replied earlierSupplied nonempty request draw
      supplied
    have carried := ledger.answered executed member earlierRequest
      earlierDraw earlierJob clientOrderId called replied
      (EnqueueRequest.dedupId?_eq_some_iff.mpr ⟨earlierSupplied, nonempty⟩)
    exact ledger.enqueue_carried carried nonempty supplied draw
  · intro request draw fresh unused
    rw [← sameOps] at unused
    rw [ledger.enqueue_unused unused draw]
    exact ⟨(InMemoryJobQueue.size_store fresh).1, rfl, rfl⟩
  · have counted := ledger.counted
    rw [sameOps] at counted
    exact counted

/-- A retry after completion returns the completed job. -/
theorem idempotentSubmission_afterCompletion :
    (queueMachine.final (.empty : InMemoryJobQueue Unit)
      [.enqueue { EnqueueRequest.default 1 "PLACE_ORDER" with
          clientOrderId := some "coid-1" } ⟨7, 0, 0⟩,
        .claim "first" 30 1,
        .complete 7 "first" 2,
        .enqueue { EnqueueRequest.default 1 "PLACE_ORDER" with
          clientOrderId := some "coid-1" } ⟨8, 3, 3⟩,
        .enqueue (.default 2 "PLACE_ORDER") ⟨9, 4, 4⟩]).size = 1 + 1 :=
  (idempotentSubmission
    [.enqueue { EnqueueRequest.default 1 "PLACE_ORDER" with
        clientOrderId := some "coid-1" } ⟨7, 0, 0⟩,
      .claim "first" 30 1,
      .complete 7 "first" 2,
      .enqueue { EnqueueRequest.default 1 "PLACE_ORDER" with
        clientOrderId := some "coid-1" } ⟨8, 3, 3⟩,
      .enqueue (.default 2 "PLACE_ORDER") ⟨9, 4, 4⟩]
    (by decide)).2.2.2.2.trans (by decide)

end SafeSignalTrader
