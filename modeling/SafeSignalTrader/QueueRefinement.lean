import SafeSignalTrader.LeaseBoard
import SafeSignalTrader.QueueInvariant

/-!
# The queue is a board of leases

A job record keeps its status, owner and deadline in three fields, and each
call of the queue checks some of them.  On the records of a reachable queue
the three fields are one phase of a lease board, and every call of the queue
is the call of that board: what the queue checks decides who holds the job.  A
call raised at a lease that the calendar does not hold is an interrupted one.
-/

namespace SafeSignalTrader

open LeaseBoard
open RunSemantics

variable {Value : Type}

namespace OrderJob

/-- Where a record stands. -/
def phase (job : OrderJob Value) : Phase String Instant :=
  match job.status, job.leaseOwner, job.leaseUntil with
  | .pending, _, _ => .waiting
  | .claimed, some owner, deadline? => .held owner deadline?
  | .completed, _, _ => .done
  | _, _, _ => .parked

/-- The task of a record; an empty client order id labels nothing. -/
def task (job : OrderJob Value) : Task String Instant String where
  phase := job.phase
  label := job.clientOrderId.filter fun clientOrderId => clientOrderId ≠ ""
  attempts := job.attempt
  limit := job.maxAttempts

/-- The status of the jobs that stand in a phase. -/
def statusIn : Phase String Instant → JobStatus
  | .waiting => .pending
  | .held _ _ => .claimed
  | .done => .completed
  | .parked => .manualReview

/-- The fields of a record say what a phase says. -/
structure StandsIn
    (job : OrderJob Value)
    (phase : Phase String Instant) : Prop where
  isPhase : job.phase = phase
  status : job.status = statusIn phase
  leaseOwner : job.leaseOwner = phase.owner?
  leaseUntil : job.leaseUntil = phase.deadline?

namespace Consistent

variable {job : OrderJob Value}

/-- A record without an owner has no deadline either. -/
theorem fields_none
    (consistent : job.Consistent)
    (unclaimed : job.status ≠ .claimed) :
    job.leaseOwner = none ∧ job.leaseUntil = none := by
  have ownerless : job.leaseOwner = none := by
    cases owner : job.leaseOwner with
    | none => rfl
    | some name => exact (unclaimed (consistent.claimed_of_owner owner)).elim
  refine ⟨ownerless, ?_⟩
  have unleased := mt consistent.leased (by simp [ownerless])
  simpa using unleased

/-- The phases of consistent records. -/
theorem standsIn
    (consistent : job.Consistent) :
    job.StandsIn .waiting ∨
      (∃ owner deadline?, job.StandsIn (.held owner deadline?)) ∨
        job.StandsIn .done ∨ job.StandsIn .parked := by
  rcases consistent.status with pending | claimed | completed | review
  · obtain ⟨ownerless, unleased⟩ := consistent.fields_none (by simp [pending])
    exact Or.inl ⟨by simp [phase, pending], pending, ownerless, unleased⟩
  · obtain ⟨owner, owned⟩ :=
      Option.isSome_iff_exists.mp (consistent.owned.mp claimed)
    exact Or.inr (Or.inl ⟨owner, job.leaseUntil,
      by simp [phase, claimed, owned], claimed, owned, rfl⟩)
  · obtain ⟨ownerless, unleased⟩ :=
      consistent.fields_none (by simp [completed])
    exact Or.inr (Or.inr (Or.inl
      ⟨by simp [phase, completed], completed, ownerless, unleased⟩))
  · obtain ⟨ownerless, unleased⟩ := consistent.fields_none (by simp [review])
    exact Or.inr (Or.inr (Or.inr
      ⟨by simp [phase, review], review, ownerless, unleased⟩))

/-- A consistent record stands in its own phase. -/
theorem standsInPhase
    (consistent : job.Consistent) :
    job.StandsIn job.phase := by
  rcases consistent.standsIn with stands | ⟨_, _, stands⟩ | stands | stands
  all_goals exact stands.isPhase ▸ stands

/-- The owner check of the queue asks who holds the task. -/
theorem isHeldBy
    (consistent : job.Consistent)
    (owner : String) :
    decide (job.leaseOwner = some owner) = job.phase.isHeldBy owner := by
  rw [Phase.isHeldBy, consistent.standsInPhase.leaseOwner]

/-- A job under an expired lease is an overdue task. -/
theorem isOverdue
    (consistent : job.Consistent)
    (now : Instant) :
    job.leaseExpired now = job.phase.isOverdue now := by
  rcases consistent.standsIn with
    stands | ⟨_, deadline?, stands⟩ | stands | stands
  case inr.inl =>
    cases deadline?
    all_goals
      simp [leaseExpired, Phase.isOverdue, stands.isPhase, stands.status,
        statusIn, stands.leaseUntil, Phase.deadline?]
  all_goals
    simp [leaseExpired, Phase.isOverdue, stands.isPhase, stands.status,
      statusIn, stands.leaseUntil, Phase.deadline?]

/-- A job that a claim may hand out is a free task. -/
theorem isFree
    (consistent : job.Consistent)
    (now : Instant) :
    job.claimable now = job.phase.isFree now := by
  rw [claimable, consistent.isOverdue]
  rcases consistent.standsIn with stands | ⟨_, _, stands⟩ | stands | stands
  all_goals
    simp [Phase.isFree, Phase.isOverdue, stands.isPhase, stands.status,
      statusIn]

end Consistent

section Moves

variable (job : OrderJob Value)

theorem task_taken (owner : String) (leaseSeconds : Int) (now : Instant) :
    (job.taken owner leaseSeconds now).task =
      job.task.takenBy owner (now + timedelta leaseSeconds) :=
  rfl

theorem task_finished (now : Instant) :
    (job.finished now).task = job.task.moveTo .done :=
  rfl

theorem task_reviewed (reason : String) (now : Instant) :
    (job.reviewed reason now).task = job.task.moveTo .parked :=
  rfl

theorem task_failed (error : String) (now : Instant) :
    (job.failed error now).task = job.task.givenBack := by
  by_cases exhausted : job.maxAttempts ≤ (job.attempt : Int)
  · simp [task, failed, phase, Task.givenBack, Task.moveTo, exhausted]
  · simp [task, failed, phase, Task.givenBack, Task.moveTo, exhausted]

variable {job}

theorem task_extended
    {owner : String}
    (owned : job.leaseOwner = some owner)
    (claimed : job.status = .claimed)
    (leaseSeconds : Int)
    (now later : Instant) :
    (job.extended leaseSeconds now later).task =
      job.task.moveTo (.held owner (some (now + timedelta leaseSeconds))) := by
  simp [task, extended, phase, Task.moveTo, owned, claimed]

theorem Consistent.task_seized
    (consistent : job.Consistent)
    (owner : String) :
    (job.seized owner).task = job.task.seizedBy owner := by
  have kept : job.leaseUntil = job.phase.deadline? :=
    consistent.standsInPhase.leaseUntil
  simp only [task, Task.seizedBy, ← kept]
  rfl

theorem Consistent.task_recovered
    (consistent : job.Consistent)
    (now : Instant) :
    (job.recovered now).task = job.task.calledIn now := by
  rw [recovered, Task.calledIn, consistent.isOverdue]
  change _ = if job.phase.isOverdue now = true then _ else _
  split <;> rfl

end Moves

end OrderJob

/-- The end of a lease, if the calendar holds it. -/
def leaseEnd? (now : Instant) (leaseSeconds : Int) : Option Instant :=
  if EndsInCalendar now leaseSeconds then
    some (now + timedelta leaseSeconds)
  else
    none

/-- The call of the board that a call of the queue is. -/
def QueueOp.command : QueueOp Value → Command UUID String Instant String
  | .enqueue request draw =>
      .file draw.jobId request.dedupId? request.maxAttempts
  | .claim owner leaseSeconds now =>
      .take owner (leaseEnd? now leaseSeconds) now
  | .heartbeat jobId owner leaseSeconds now _ =>
      .extend jobId owner (leaseEnd? now leaseSeconds)
  | .complete jobId owner _ => .finish jobId owner
  | .fail jobId owner _ _ => .giveBack jobId owner
  | .markManualReview jobId owner _ _ => .park jobId owner
  | .recoverExpired now => .callIn now

/-- What a reply of the queue says on the board. -/
def QueueReply.answer : QueueReply Value → Answer UUID
  | .enqueued job => .filed job.jobId
  | .claimed job => .took (job.map OrderJob.jobId)
  | .answered accepted => .accepted accepted
  | .recovered count => .calledIn count
  | .raised _ => .interrupted

namespace InMemoryJobQueue

/-- The tasks of the stored jobs. -/
def board (queue : InMemoryJobQueue Value) :
    Board UUID String Instant String :=
  queue.jobs.mapTo OrderJob.task

/-- Every stored record is consistent. -/
def AllConsistent (queue : InMemoryJobQueue Value) : Prop :=
  ∀ jobId job, queue.get jobId = some job → job.Consistent

section Calls

variable {queue : InMemoryJobQueue Value}

theorem get?_board (queue : InMemoryJobQueue Value) (jobId : UUID) :
    queue.board.get? jobId = (queue.get jobId).map OrderJob.task :=
  queue.jobs.get?_mapTo OrderJob.task jobId

/-- The record behind a value of the store is consistent. -/
theorem AllConsistent.of_mem
    (consistent : queue.AllConsistent)
    {job : OrderJob Value}
    (member : job ∈ queue.jobs.values) :
    job.Consistent := by
  obtain ⟨jobId, found⟩ := queue.jobs.mem_values_iff.mp member
  exact consistent jobId job found

/-- A stored record shows as a task set on the board. -/
theorem board_store (queue : InMemoryJobQueue Value) (job : OrderJob Value) :
    (queue.store job).board = queue.board.set job.jobId job.task :=
  queue.jobs.mapTo_set OrderJob.task job.jobId job

/-- A mutated record shows as a task changed on the board. -/
theorem board_mutate
    {jobId : UUID}
    {change : OrderJob Value → OrderJob Value}
    (keepsId : ∀ job, (change job).jobId = job.jobId)
    (seen : Task String Instant String → Task String Instant String)
    (shows : ∀ job, queue.get jobId = some job →
      (change job).task = seen job.task) :
    (queue.mutate jobId change keepsId).board =
      queue.board.modify jobId seen :=
  OrderedDict.mapTo_modify shows

/-- The task of a new job waits under the label of its request. -/
theorem task_newJob
    (request : EnqueueRequest Value)
    (draw : EnqueueDraw) :
    (request.newJob draw).task =
      ⟨.waiting, request.dedupId?, 0, request.maxAttempts⟩ :=
  rfl

/-- The scan for a client order id is the scan of the labels. -/
theorem findClientOrder_board
    (queue : InMemoryJobQueue Value)
    (request : EnqueueRequest Value) :
    (request.dedupId?.bind fun label =>
        queue.board.firstWhere? fun task => task.label = some label) =
      (queue.findClientOrder request).map fun job =>
        (job.jobId, job.task) := by
  cases label : request.dedupId? with
  | none =>
      simp [findClientOrder, label]
  | some clientOrderId =>
      have nonempty : clientOrderId ≠ "" :=
        of_decide_eq_true (Option.filter_eq_some_iff.mp label).2
      have sameTest :
          (fun job : OrderJob Value =>
            decide (job.task.label = some clientOrderId)) =
            fun job => decide (job.clientOrderId = some clientOrderId) := by
        funext job
        simp [OrderJob.task, Option.filter_eq_some_iff, nonempty]
      simp only [Option.bind_some, board, OrderedDict.firstWhere?_mapTo,
        sameTest, findClientOrder, label, Option.map_map]
      cases scan : queue.jobs.firstWhere? fun job =>
          decide (job.clientOrderId = some clientOrderId) with
      | none => rfl
      | some entry =>
          have filed : entry.2.jobId = entry.1 :=
            queue.keyed entry.1 entry.2 (OrderedDict.get?_of_firstWhere? scan).1
          simp [filed]

/-- Enqueueing files a task. -/
theorem board_enqueue
    (queue : InMemoryJobQueue Value)
    (request : EnqueueRequest Value)
    (draw : EnqueueDraw) :
    LeaseBoard.file queue.board draw.jobId request.dedupId?
        request.maxAttempts =
      ((queue.enqueue request draw).1.board,
        (queue.enqueue request draw).2.jobId) := by
  simp only [LeaseBoard.file, findClientOrder_board, enqueue]
  cases queue.findClientOrder request with
  | some job =>
      rfl
  | none =>
      simp only [Option.map_none, board_store, task_newJob]
      rfl

/-- Claiming takes a task. -/
theorem board_claim
    (consistent : queue.AllConsistent)
    (owner : String)
    (leaseSeconds : Int)
    (now : Instant) :
    LeaseBoard.take queue.board owner (leaseEnd? now leaseSeconds) now =
      ((queue.claim owner now leaseSeconds).1.board,
        (QueueReply.ofClaim
          (queue.claim owner now leaseSeconds).2).answer) := by
  have sameScan :
      (queue.jobs.firstWhere? fun job => job.task.phase.isFree now) =
        queue.scan? now := by
    apply OrderedDict.firstWhere?_congr
    intro job member
    exact ((consistent.of_mem member).isFree now).symm
  simp only [LeaseBoard.take, board, OrderedDict.firstWhere?_mapTo, sameScan,
    claim]
  cases scan : queue.scan? now with
  | none =>
      rfl
  | some entry =>
      have filed : entry.2.jobId = entry.1 :=
        queue.keyed entry.1 entry.2 (OrderedDict.get?_of_firstWhere? scan).1
      by_cases ends : EndsInCalendar now leaseSeconds
      · simp only [Option.map_some, leaseEnd?, if_pos ends]
        refine Prod.ext ?_
          (congrArg (fun jobId => Answer.took (some jobId)) filed.symm)
        exact (board_mutate
          (fun job => job.taken_jobId owner leaseSeconds now)
          (fun task => task.takenBy owner (now + timedelta leaseSeconds))
          (fun job _ => job.task_taken owner leaseSeconds now)).symm
      · simp only [Option.map_some, leaseEnd?, if_neg ends]
        refine Prod.ext ?_ rfl
        exact (board_mutate
          (fun job => job.seized_jobId owner)
          (fun task => task.seizedBy owner)
          (fun job found =>
            OrderJob.Consistent.task_seized (consistent _ job found)
              owner)).symm

/-- A worker's call is the call of the task's holder. -/
theorem board_ownerCall
    {jobId : UUID}
    {owner : String}
    {permits : OrderJob Value → Bool}
    {change : OrderJob Value → OrderJob Value}
    (keepsId : ∀ job, (change job).jobId = job.jobId)
    {seen : Task String Instant String → Task String Instant String}
    (permitsHolder : ∀ job, queue.get jobId = some job →
      permits job = job.phase.isHeldBy owner)
    (shows : ∀ job, queue.get jobId = some job → permits job = true →
      (change job).task = seen job.task) :
    LeaseBoard.holderCall queue.board jobId owner seen =
      ((queue.ownerCall jobId permits change keepsId).1.board,
        (queue.ownerCall jobId permits change keepsId).2) := by
  rw [LeaseBoard.holderCall, get?_board, ownerCall]
  cases found : queue.get jobId with
  | none =>
      rfl
  | some job =>
      have sameAnswer : job.task.phase.isHeldBy owner = permits job :=
        (permitsHolder job found).symm
      simp only [Option.map_some, sameAnswer]
      cases permitted : permits job with
      | false =>
          rfl
      | true =>
          refine Prod.ext (board_mutate keepsId seen ?_).symm rfl
          intro stored isStored
          rw [found, Option.some.injEq] at isStored
          subst isStored
          exact shows job found permitted

/-- A heartbeat comes from the holder of the task. -/
theorem AllConsistent.ownsLease
    (consistent : queue.AllConsistent)
    {jobId : UUID}
    {job : OrderJob Value}
    (found : queue.get jobId = some job)
    (owner : String) :
    job.ownsLease owner = job.phase.isHeldBy owner := by
  have ofJob := consistent jobId job found
  rw [← ofJob.isHeldBy owner, OrderJob.ownsLease]
  by_cases owned : job.leaseOwner = some owner
  · simp [owned, ofJob.claimed_of_owner owned]
  · simp [owned]

/-- A heartbeat extends the lease of the holder. -/
theorem board_heartbeat
    (consistent : queue.AllConsistent)
    (jobId : UUID)
    (owner : String)
    (leaseSeconds : Int)
    (now later : Instant) :
    LeaseBoard.extend queue.board jobId owner (leaseEnd? now leaseSeconds) =
      ((queue.heartbeat jobId owner now later leaseSeconds).1.board,
        (QueueReply.ofHeartbeat
          (queue.heartbeat jobId owner now later leaseSeconds).2 :
            QueueReply Value).answer) := by
  have sameHolder :
      LeaseBoard.isHeldBy queue.board jobId owner =
        queue.ownsLease jobId owner := by
    rw [LeaseBoard.isHeldBy, get?_board, ownsLease]
    cases found : queue.get jobId with
    | none =>
        rfl
    | some job =>
        exact (consistent.ownsLease found owner).symm
  by_cases ends : EndsInCalendar now leaseSeconds
  · have called :
        (LeaseBoard.holderCall queue.board jobId owner fun task =>
            task.moveTo
              (.held owner (some (now + timedelta leaseSeconds)))) = _ :=
      board_ownerCall
        (fun job => job.extended_jobId leaseSeconds now later)
        (fun job found => consistent.ownsLease found owner)
        (fun job _ owns =>
          OrderJob.task_extended (OrderJob.ownsLease_iff.mp owns).1
            (OrderJob.ownsLease_iff.mp owns).2 leaseSeconds now later)
    have granted :
        leaseEnd? now leaseSeconds = some (now + timedelta leaseSeconds) :=
      if_pos ends
    simp only [granted, LeaseBoard.extend, reduceCtorEq, and_false, ↓reduceIte,
      heartbeat, ends, not_true_eq_false, called]
    rfl
  · have ungranted : leaseEnd? now leaseSeconds = none := if_neg ends
    rw [ungranted]
    -- Only the holder's call is interrupted; any other one is refused.
    cases owns : queue.ownsLease jobId owner with
    | true =>
        simp only [LeaseBoard.extend, sameHolder, owns, and_self, ↓reduceIte,
          heartbeat, ends, not_false_eq_true]
        rfl
    | false =>
        rw [owns] at sameHolder
        simp only [LeaseBoard.extend, sameHolder, Bool.false_eq_true,
          false_and, ↓reduceIte, heartbeat, owns,
          LeaseBoard.holderCall_of_not_held sameHolder,
          ownerCall_of_not_ownsLease _ _ owns]
        rfl

/-- The three calls that end a lease check the owner alone. -/
theorem board_ownedCall
    (consistent : queue.AllConsistent)
    (jobId : UUID)
    (owner : String)
    {change : OrderJob Value → OrderJob Value}
    (keepsId : ∀ job, (change job).jobId = job.jobId)
    (seen : Task String Instant String → Task String Instant String)
    (shows : ∀ job, (change job).task = seen job.task) :
    LeaseBoard.holderCall queue.board jobId owner seen =
      ((queue.ownerCall jobId
          (fun job => decide (job.leaseOwner = some owner)) change
          keepsId).1.board,
        (queue.ownerCall jobId
          (fun job => decide (job.leaseOwner = some owner)) change
          keepsId).2) :=
  board_ownerCall keepsId
    (fun job found => (consistent jobId job found).isHeldBy owner)
    (fun job _ _ => shows job)

/-- Recovery calls leases in. -/
theorem board_recoverExpired
    (consistent : queue.AllConsistent)
    (now : Instant) :
    LeaseBoard.callIn queue.board now =
      ((queue.recoverExpired now).1.board,
        (queue.recoverExpired now).2) := by
  have swept :
      (queue.recoverExpired now).1.board =
        queue.board.mapValues fun task => task.calledIn now :=
    OrderedDict.mapTo_mapValues fun job member =>
      (consistent.of_mem member).task_recovered now
  refine Prod.ext swept.symm ?_
  change queue.board.values.countP _ = queue.jobs.values.countP _
  have shown : queue.board.values = queue.jobs.values.map OrderJob.task := by
    simp [board, OrderedDict.values, OrderedDict.mapTo, Function.comp_def]
  rw [shown, List.countP_map]
  apply List.countP_congr
  intro job member
  simp [(consistent.of_mem member).isOverdue, OrderJob.task]

/-- Every call of the queue is a call of its board. -/
theorem board_step
    (consistent : queue.AllConsistent)
    (op : QueueOp Value) :
    LeaseBoard.step queue.board op.command =
      ((queue.step op).1.board, (queue.step op).2.answer) := by
  cases op with
  | enqueue request draw =>
      simp only [QueueOp.command, LeaseBoard.step, board_enqueue, step,
        QueueReply.answer]
  | claim owner leaseSeconds now =>
      simp only [QueueOp.command, LeaseBoard.step, board_claim consistent,
        step, QueueReply.answer]
  | heartbeat jobId owner leaseSeconds now later =>
      simp only [QueueOp.command, LeaseBoard.step,
        board_heartbeat consistent jobId owner leaseSeconds now later, step,
        QueueReply.answer]
  | complete jobId owner now =>
      have called := board_ownedCall consistent jobId owner
        (fun job => job.finished_jobId now) (fun task => task.moveTo .done)
        (fun job => job.task_finished now)
      simp only [QueueOp.command, LeaseBoard.step, called, step, complete,
        QueueReply.answer]
  | fail jobId owner error now =>
      have called := board_ownedCall consistent jobId owner
        (fun job => job.failed_jobId error now) Task.givenBack
        (fun job => job.task_failed error now)
      simp only [QueueOp.command, LeaseBoard.step, called, step, fail,
        QueueReply.answer]
  | markManualReview jobId owner reason now =>
      have called := board_ownedCall consistent jobId owner
        (fun job => job.reviewed_jobId reason now)
        (fun task => task.moveTo .parked)
        (fun job => job.task_reviewed reason now)
      simp only [QueueOp.command, LeaseBoard.step, called, step,
        markManualReview, QueueReply.answer]
  | recoverExpired now =>
      simp only [QueueOp.command, LeaseBoard.step,
        board_recoverExpired consistent, step, QueueReply.answer]

/-- A call keeps all records consistent. -/
theorem AllConsistent.step
    (consistent : queue.AllConsistent)
    (op : QueueOp Value)
    (fresh : queue.DrawsFresh op) :
    (queue.step op).1.AllConsistent :=
  fun jobId _ found =>
    (queueMachine_moves fresh jobId).consistent (consistent jobId) found

end Calls

/-- The queue seen as a board. -/
def boardRefinement :
    Machine.Refinement
      (queueMachine :
        Machine (InMemoryJobQueue Value) (QueueOp Value) (QueueReply Value))
      (boardMachine :
        Machine (Board UUID String Instant String)
          (Command UUID String Instant String) (Answer UUID)) where
  holds := AllConsistent
  view := board
  command := QueueOp.command
  answer := QueueReply.answer
  preserved := fun _ op consistent fresh => consistent.step op fresh
  admitted := fun _ _ _ _ => trivial
  commutes := fun _ op consistent _ => board_step consistent op

theorem allConsistent_empty :
    (empty : InMemoryJobQueue Value).AllConsistent := by
  intro jobId job impossible
  cases impossible

end InMemoryJobQueue

/-- What a task says of the lease its job is under. -/
def leaseFields
    (task : Task String Instant String) :
    JobStatus × Option String × Option Instant × Nat :=
  (OrderJob.statusIn task.phase, task.phase.owner?, task.phase.deadline?,
    task.attempts)

/-- The lease fields of a consistent record are those of its task. -/
theorem OrderJob.Consistent.leaseFields_task
    {job : OrderJob Value}
    (consistent : job.Consistent) :
    leaseFields job.task =
      (job.status, job.leaseOwner, job.leaseUntil, job.attempt) := by
  have stands := consistent.standsInPhase
  rw [stands.status, stands.leaseOwner, stands.leaseUntil]
  rfl

/-- The lease fields of a reachable queue are on its board. -/
theorem QueueReachable.leaseFields_board
    {queue : InMemoryJobQueue Value}
    (reachable : QueueReachable queue)
    (jobId : UUID) :
    ((queue.board.get? jobId).map leaseFields) =
      (queue.get jobId).map fun job =>
        (job.status, job.leaseOwner, job.leaseUntil, job.attempt) := by
  rw [InMemoryJobQueue.get?_board, Option.map_map]
  apply Option.map_congr
  intro job found
  exact (reachable.consistent found).leaseFields_task

/--
The queue refines the board: through every run the board that receives the same
calls gives the same answers and ends with the tasks of the stored jobs, and
status, owner, deadline and attempts of every record are those of its task.
-/
theorem queueRefinesBoard
    (ops : List (QueueOp Value))
    (admitted : queueMachine.Admitted .empty ops) :
    boardMachine.final .empty (ops.map QueueOp.command) =
        (queueMachine.final .empty ops).board ∧
      (boardMachine.trace .empty (ops.map QueueOp.command)).map
          Executed.reply =
        (queueMachine.trace .empty ops).map
          (fun executed => executed.reply.answer) ∧
      ∀ jobId,
        ((boardMachine.final .empty
            (ops.map QueueOp.command)).get? jobId).map leaseFields =
          ((queueMachine.final .empty ops).get jobId).map fun job =>
            (job.status, job.leaseOwner, job.leaseUntil, job.attempt) := by
  obtain ⟨sameBoard, sameAnswers⟩ :=
    InMemoryJobQueue.boardRefinement.run
      InMemoryJobQueue.allConsistent_empty admitted
  have reachable : QueueReachable (queueMachine.final .empty ops) :=
    ⟨ops, admitted, rfl⟩
  refine ⟨sameBoard, sameAnswers, ?_⟩
  intro jobId
  rw [← reachable.leaseFields_board jobId]
  exact congrArg (fun board => (OrderedDict.get? board jobId).map leaseFields)
    sameBoard

/-- A job given back at its last attempt is parked, on the board as well. -/
theorem queueRefinesBoard_exhausted :
    boardMachine.final .empty
        (([.enqueue ⟨1, "PLACE_ORDER", none, none, 1⟩ ⟨7, 0, 0⟩,
          .claim "first" 30 1,
          .fail 7 "first" "timeout" 2] : List (QueueOp Unit)).map
            QueueOp.command) =
      (queueMachine.final (.empty : InMemoryJobQueue Unit)
        [.enqueue ⟨1, "PLACE_ORDER", none, none, 1⟩ ⟨7, 0, 0⟩,
          .claim "first" 30 1,
          .fail 7 "first" "timeout" 2]).board :=
  (queueRefinesBoard
    [.enqueue ⟨1, "PLACE_ORDER", none, none, 1⟩ ⟨7, 0, 0⟩,
      .claim "first" 30 1,
      .fail 7 "first" "timeout" 2]
    (by decide)).1

/--
What a job says does not schedule it: two histories that make the same calls,
whatever trades, job types, payloads, error texts and other readings of the
clock they carry, are answered alike, and afterwards the jobs of one id have
the same status, owner, deadline and attempts.
-/
theorem queueIgnoresContents
    {FirstValue SecondValue : Type}
    (first : List (QueueOp FirstValue))
    (second : List (QueueOp SecondValue))
    (firstAdmitted : queueMachine.Admitted .empty first)
    (secondAdmitted : queueMachine.Admitted .empty second)
    (sameCalls : first.map QueueOp.command = second.map QueueOp.command) :
    ((queueMachine.trace .empty first).map
        fun executed => executed.reply.answer) =
        ((queueMachine.trace .empty second).map
          fun executed => executed.reply.answer) ∧
      ∀ jobId,
        (((queueMachine.final .empty first).get jobId).map fun job =>
            (job.status, job.leaseOwner, job.leaseUntil, job.attempt)) =
          ((queueMachine.final .empty second).get jobId).map fun job =>
            (job.status, job.leaseOwner, job.leaseUntil, job.attempt) := by
  have firstReachable : QueueReachable (queueMachine.final .empty first) :=
    ⟨first, firstAdmitted, rfl⟩
  have secondReachable : QueueReachable (queueMachine.final .empty second) :=
    ⟨second, secondAdmitted, rfl⟩
  have firstRun := InMemoryJobQueue.boardRefinement.run
    InMemoryJobQueue.allConsistent_empty firstAdmitted
  have secondRun := InMemoryJobQueue.boardRefinement.run
    InMemoryJobQueue.allConsistent_empty secondAdmitted
  simp only [InMemoryJobQueue.boardRefinement] at firstRun secondRun
  rw [sameCalls] at firstRun
  constructor
  · exact firstRun.2.symm.trans secondRun.2
  · intro jobId
    have sameBoard :
        (queueMachine.final .empty first).board =
          (queueMachine.final .empty second).board :=
      firstRun.1.symm.trans secondRun.1
    rw [← firstReachable.leaseFields_board, sameBoard,
      secondReachable.leaseFields_board]

/-- An order and a cancellation of another trade are served alike. -/
theorem queueIgnoresContents_retry :
    (((queueMachine.final (.empty : InMemoryJobQueue Unit)
        [.enqueue ⟨1, "PLACE_ORDER", none, none, 2⟩ ⟨7, 0, 0⟩,
          .claim "first" 30 1,
          .fail 7 "first" "timeout" 2]).get 7).map fun job =>
        (job.status, job.leaseOwner, job.leaseUntil, job.attempt)) =
      ((queueMachine.final (.empty : InMemoryJobQueue Nat)
        [.enqueue ⟨2, "CANCEL_ORDER", none, none, 2⟩ ⟨7, 5, 6⟩,
          .claim "first" 30 1,
          .fail 7 "first" "rejected" 9]).get 7).map fun job =>
        (job.status, job.leaseOwner, job.leaseUntil, job.attempt) :=
  (queueIgnoresContents
    [.enqueue ⟨1, "PLACE_ORDER", none, none, 2⟩ ⟨7, 0, 0⟩,
      .claim "first" 30 1,
      .fail 7 "first" "timeout" 2]
    [.enqueue ⟨2, "CANCEL_ORDER", none, none, 2⟩ ⟨7, 5, 6⟩,
      .claim "first" 30 1,
      .fail 7 "first" "rejected" 9]
    (by decide) (by decide) rfl).2 7

end SafeSignalTrader
