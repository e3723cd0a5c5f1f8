import SafeSignalTrader.LeaseDraining
import SafeSignalTrader.QueueRefinement

/-!
# Draining the queue

Workers that claim a job and then complete it, report a failure or ask for a
review, one after the other.  Jobs are served strictly in the order in which
they were created, a job that failed before the next one is looked at, and
after as many turns as the jobs have attempts left every job is settled.
-/

namespace SafeSignalTrader

open LeaseBoard
open RunSemantics

variable {Value : Type}

/-- How a worker ends its turn on a job. -/
inductive WorkOutcome where
  | completed
  | failed (error : String)
  | reviewed (reason : String)
  deriving Repr, DecidableEq

namespace WorkOutcome

/-- The call that ends the turn. -/
def call
    (outcome : WorkOutcome)
    (jobId : UUID)
    (owner : String)
    (now : Instant) : QueueOp Value :=
  match outcome with
  | .completed => .complete jobId owner now
  | .failed error => .fail jobId owner error now
  | .reviewed reason => .markManualReview jobId owner reason now

/-- What the outcome is on the board. -/
def outcome : WorkOutcome → Outcome
  | .completed => .finished
  | .failed _ => .failed
  | .reviewed _ => .parked

theorem call_command
    (outcome : WorkOutcome)
    (jobId : UUID)
    (owner : String)
    (now : Instant) :
    (outcome.call jobId owner now : QueueOp Value).command =
      outcome.outcome.command jobId owner := by
  cases outcome <;> rfl

end WorkOutcome

/-- The turn of one worker, with the readings of its two calls. -/
structure WorkTurn where
  owner : String
  leaseSeconds : Int
  claimedAt : Instant
  outcome : WorkOutcome
  reportedAt : Instant
  deriving Repr, DecidableEq

/-- The turn on the board. -/
def WorkTurn.turn (turn : WorkTurn) : Turn String Instant where
  owner := turn.owner
  deadline := turn.claimedAt + timedelta turn.leaseSeconds
  now := turn.claimedAt
  outcome := turn.outcome.outcome

/-- The attempts a job may still take; a settled job takes none. -/
def OrderJob.turnsLeft (job : OrderJob Value) : Nat :=
  if job.status = .completed ∨ job.status = .manualReview then
    0
  else
    (max 1 (job.maxAttempts - job.attempt)).toNat

namespace InMemoryJobQueue

/-- The attempts all jobs together may still take. -/
def backlog (queue : InMemoryJobQueue Value) : Nat :=
  (queue.jobs.values.map OrderJob.turnsLeft).sum

/-- Every claimed job is claimed under a lease that has passed. -/
def LeasesLapsed
    (queue : InMemoryJobQueue Value)
    (now : Instant) : Prop :=
  ∀ job ∈ queue.jobs.values,
    job.status = .claimed → job.leaseExpired now = true

instance decidableLeasesLapsed
    (queue : InMemoryJobQueue Value)
    (now : Instant) :
    Decidable (queue.LeasesLapsed now) :=
  inferInstanceAs
    (Decidable (∀ job ∈ queue.jobs.values,
      job.status = .claimed → job.leaseExpired now = true))

/--
Claim a job and end the turn on it; returns the id of the job.  A turn whose
claim is raised ends there.
-/
def workTurn
    (queue : InMemoryJobQueue Value)
    (turn : WorkTurn) : InMemoryJobQueue Value × Option UUID :=
  match queue.claim turn.owner turn.claimedAt turn.leaseSeconds with
  | (claimed, .ok (some job)) =>
      ((claimed.step
          (turn.outcome.call job.jobId turn.owner turn.reportedAt)).1,
        some job.jobId)
  | (claimed, _) => (claimed, none)

end InMemoryJobQueue

/--
Workers taking their turns, each when no lease is running and for a lease that
ends in the calendar.
-/
def queueWorkMachine :
    Machine (InMemoryJobQueue Value) WorkTurn (Option UUID) where
  step := InMemoryJobQueue.workTurn
  admits := fun queue turn =>
    queue.LeasesLapsed turn.claimedAt ∧
      EndsInCalendar turn.claimedAt turn.leaseSeconds

instance decidableWorkAdmits
    (queue : InMemoryJobQueue Value)
    (turn : WorkTurn) :
    Decidable (queueWorkMachine.admits queue turn) :=
  inferInstanceAs (Decidable (queue.LeasesLapsed turn.claimedAt ∧
    EndsInCalendar turn.claimedAt turn.leaseSeconds))

namespace OrderJob.Consistent

variable {job : OrderJob Value}

/-- A task is settled when its job is completed or under review. -/
theorem isSettled_task
    (consistent : job.Consistent) :
    job.task.phase.isSettled = true ↔
      job.status = .completed ∨ job.status = .manualReview := by
  rw [show job.task.phase = job.phase from rfl,
    consistent.standsInPhase.status]
  cases job.phase <;> simp [Phase.isSettled, statusIn]

/-- The attempts left are the turns left of the task. -/
theorem turnsLeft_task
    (consistent : job.Consistent) :
    job.task.turnsLeft = job.turnsLeft := by
  simp only [Task.turnsLeft, consistent.isSettled_task, turnsLeft]
  rfl

end OrderJob.Consistent

namespace InMemoryJobQueue

variable {queue : InMemoryJobQueue Value}

theorem values_board (queue : InMemoryJobQueue Value) :
    queue.board.values = queue.jobs.values.map OrderJob.task := by
  simp [board, OrderedDict.values, OrderedDict.mapTo, Function.comp_def]

/-- The backlog of the queue is the backlog of its board. -/
theorem backlog_board
    (consistent : queue.AllConsistent) :
    Board.backlog queue.board = queue.backlog := by
  rw [Board.backlog, values_board, List.map_map, backlog]
  congr 1
  apply List.map_congr_left
  intro job member
  exact (consistent.of_mem member).turnsLeft_task

/-- A board whose queue has no running lease has none either. -/
theorem leasesLapsed_board
    (consistent : queue.AllConsistent)
    {now : Instant}
    (lapsed : queue.LeasesLapsed now) :
    Board.LeasesLapsed queue.board now := by
  intro task member held
  rw [values_board] at member
  obtain ⟨job, stored, rfl⟩ := List.mem_map.mp member
  have ofJob := consistent.of_mem stored
  have owned : job.leaseOwner.isSome = true := by
    rw [ofJob.standsInPhase.leaseOwner]
    exact held
  have expired := lapsed job stored (ofJob.owned.mpr owned)
  rw [ofJob.isOverdue] at expired
  exact expired

/-- A turn of a worker is a turn on the board. -/
theorem board_workTurn
    (consistent : queue.AllConsistent)
    (turn : WorkTurn)
    (ends : EndsInCalendar turn.claimedAt turn.leaseSeconds) :
    work queue.board turn.turn =
      ((queue.workTurn turn).1.board, (queue.workTurn turn).2) := by
  have granted :
      leaseEnd? turn.claimedAt turn.leaseSeconds =
        some (turn.claimedAt + timedelta turn.leaseSeconds) :=
    if_pos ends
  have claimed :=
    board_claim consistent turn.owner turn.leaseSeconds turn.claimedAt
  rw [granted] at claimed
  have stillConsistent :
      (queue.claim turn.owner turn.claimedAt
        turn.leaseSeconds).1.AllConsistent :=
    consistent.step
      (.claim turn.owner turn.leaseSeconds turn.claimedAt) trivial
  simp only [work, WorkTurn.turn, claimed, workTurn]
  generalize queue.claim turn.owner turn.claimedAt turn.leaseSeconds =
    reply at stillConsistent
  obtain ⟨after, handed⟩ := reply
  rcases handed with raised | handedOut
  · rfl
  · cases handedOut with
    | none =>
        rfl
    | some job =>
        have reported := board_step stillConsistent
          (turn.outcome.call job.jobId turn.owner turn.reportedAt)
        rw [WorkOutcome.call_command] at reported
        simp only [QueueReply.ofClaim, QueueReply.answer, Option.map_some,
          reported]

/-- A turn keeps all records consistent. -/
theorem AllConsistent.workTurn
    (consistent : queue.AllConsistent)
    (turn : WorkTurn) :
    (queue.workTurn turn).1.AllConsistent := by
  have afterClaim :
      (queue.claim turn.owner turn.claimedAt
        turn.leaseSeconds).1.AllConsistent :=
    consistent.step
      (.claim turn.owner turn.leaseSeconds turn.claimedAt) trivial
  simp only [InMemoryJobQueue.workTurn]
  generalize queue.claim turn.owner turn.claimedAt turn.leaseSeconds =
    reply at afterClaim
  split
  · apply AllConsistent.step afterClaim
    cases turn.outcome <;> trivial
  · exact afterClaim

/-- Workers on the queue seen as workers on its board. -/
def workRefinement :
    Machine.Refinement
      (queueWorkMachine :
        Machine (InMemoryJobQueue Value) WorkTurn (Option UUID))
      (workMachine :
        Machine (Board UUID String Instant String) (Turn String Instant)
          (Option UUID)) where
  holds := AllConsistent
  view := board
  command := WorkTurn.turn
  answer := id
  preserved := fun _ turn consistent _ => consistent.workTurn turn
  admitted := fun _ _ consistent admits =>
    leasesLapsed_board consistent admits.1
  commutes := fun _ turn consistent admits =>
    board_workTurn consistent turn admits.2

end InMemoryJobQueue

/-- The jobs that turns served, oldest turn first. -/
def servedJobs
    (queue : InMemoryJobQueue Value)
    (turns : List WorkTurn) : List UUID :=
  (queueWorkMachine.trace queue turns).filterMap Executed.reply

/-- The jobs served are the tasks served on the board. -/
theorem servedIds_board
    {queue : InMemoryJobQueue Value}
    (consistent : queue.AllConsistent)
    {turns : List WorkTurn}
    (admitted : queueWorkMachine.Admitted queue turns) :
    servedIds queue.board (turns.map WorkTurn.turn) =
      servedJobs queue turns := by
  have sameReplies :=
    (InMemoryJobQueue.workRefinement.run consistent admitted).2
  have served := congrArg (List.filterMap id) sameReplies
  rw [List.filterMap_map, List.filterMap_map] at served
  exact served

/--
Draining: while every claimed job is under a lease that has passed, workers that
ask for leases that end in the calendar serve the jobs in the order of creation
and never return to one after they served a newer one; after as many turns as
attempts are left every job is completed or under review, and when every turn
fails no fewer turns are enough.
-/
theorem queueDrains
    (queue : InMemoryJobQueue Value)
    (reachable : QueueReachable queue)
    (turns : List WorkTurn)
    (admitted : queueWorkMachine.Admitted queue turns) :
    (servedJobs queue turns).Pairwise
        (fun first later =>
          first = later ∨ [first, later].Sublist queue.jobs.keys) ∧
      (queue.backlog ≤ turns.length →
        ∀ jobId job,
          (queueWorkMachine.final queue turns).get jobId = some job →
            job.status = .completed ∨ job.status = .manualReview) ∧
      ((∀ turn ∈ turns, ∃ error, turn.outcome = .failed error) →
        (queueWorkMachine.final queue turns).backlog =
          queue.backlog - turns.length) := by
  have consistent : queue.AllConsistent := fun _ _ found =>
    reachable.consistent found
  have stillConsistent :
      (queueWorkMachine.final queue turns).AllConsistent :=
    queueWorkMachine.invariant InMemoryJobQueue.AllConsistent
      (fun _ turn consistentHere _ => consistentHere.workTurn turn)
      consistent admitted
  have onBoard :
      workMachine.Admitted queue.board (turns.map WorkTurn.turn) :=
    InMemoryJobQueue.workRefinement.run_admitted consistent admitted
  have sameBoard :
      workMachine.final queue.board (turns.map WorkTurn.turn) =
        (queueWorkMachine.final queue turns).board :=
    (InMemoryJobQueue.workRefinement.run consistent admitted).1
  refine ⟨?_, ?_, ?_⟩
  · have ordered := servedIds_ordered onBoard
    rw [servedIds_board consistent admitted] at ordered
    have sameKeys : queue.board.keys = queue.jobs.keys := by
      simp [InMemoryJobQueue.board, OrderedDict.keys, OrderedDict.mapTo,
        Function.comp_def]
    rwa [sameKeys] at ordered
  · intro enough jobId job found
    have spent := backlog_final onBoard
    rw [sameBoard, InMemoryJobQueue.backlog_board consistent,
      List.length_map] at spent
    have allSettled := Board.backlog_eq_zero_iff.mp (by
      show Board.backlog (queueWorkMachine.final queue turns).board = 0
      omega)
    have ofJob := stillConsistent jobId job found
    apply ofJob.isSettled_task.mp
    apply allSettled
    rw [InMemoryJobQueue.values_board]
    exact List.mem_map_of_mem
      ((queueWorkMachine.final queue turns).jobs.mem_values_iff.mpr
        ⟨jobId, found⟩)
  · intro failing
    have spent := backlog_final_failed onBoard (by
      intro turn member
      obtain ⟨made, isTurn, rfl⟩ := List.mem_map.mp member
      obtain ⟨error, failed⟩ := failing made isTurn
      simp [WorkTurn.turn, failed, WorkOutcome.outcome])
    rw [sameBoard, InMemoryJobQueue.backlog_board consistent,
      InMemoryJobQueue.backlog_board stillConsistent,
      List.length_map] at spent
    exact spent

/-- Two jobs with two attempts each: the first is served out before the second. -/
theorem queueDrains_retries :
    (servedJobs
        (queueMachine.final (.empty : InMemoryJobQueue Unit)
          [.enqueue ⟨1, "PLACE_ORDER", none, none, 2⟩ ⟨7, 0, 0⟩,
            .enqueue ⟨2, "PLACE_ORDER", none, none, 2⟩ ⟨8, 1, 1⟩,
            .claim "lost" 30 2])
        [⟨"worker", 30, 40000000, .failed "timeout", 41000000⟩,
          ⟨"worker", 30, 42000000, .failed "timeout", 43000000⟩,
          ⟨"worker", 30, 44000000, .completed, 45000000⟩]).Pairwise
        (fun first later => first = later ∨ [first, later].Sublist [7, 8]) :=
  (queueDrains
    (queueMachine.final (.empty : InMemoryJobQueue Unit)
      [.enqueue ⟨1, "PLACE_ORDER", none, none, 2⟩ ⟨7, 0, 0⟩,
        .enqueue ⟨2, "PLACE_ORDER", none, none, 2⟩ ⟨8, 1, 1⟩,
        .claim "lost" 30 2])
    ⟨[.enqueue ⟨1, "PLACE_ORDER", none, none, 2⟩ ⟨7, 0, 0⟩,
      .enqueue ⟨2, "PLACE_ORDER", none, none, 2⟩ ⟨8, 1, 1⟩,
      .claim "lost" 30 2], by decide, rfl⟩
    [⟨"worker", 30, 40000000, .failed "timeout", 41000000⟩,
      ⟨"worker", 30, 42000000, .failed "timeout", 43000000⟩,
      ⟨"worker", 30, 44000000, .completed, 45000000⟩]
    (by decide)).1

end SafeSignalTrader
