import Mathlib.Algebra.GroupWithZero.Nat
import Mathlib.Data.List.Induction
import Mathlib.Algebra.BigOperators.Group.List.Basic
import SafeSignalTrader.LeaseBoard

/-!
# Draining a board of leases

Workers that take the oldest free task and then end their turn on it, one turn
after the other.  While no lease of somebody else is running, a turn serves the
oldest task that is not settled, and the number of turns the tasks may still
take falls by one.
-/

namespace LeaseBoard

open RunSemantics

variable {Id Owner Time Label : Type}

/-- How a holder ends its turn. -/
inductive Outcome where
  | finished
  | failed
  | parked
  deriving Repr, DecidableEq

namespace Outcome

/-- The call that ends the turn. -/
def command
    (outcome : Outcome)
    (id : Id)
    (owner : Owner) : Command Id Owner Time Label :=
  match outcome with
  | .finished => .finish id owner
  | .failed => .giveBack id owner
  | .parked => .park id owner

/-- What that call does to the task. -/
def ends
    (outcome : Outcome)
    (task : Task Owner Time Label) : Task Owner Time Label :=
  match outcome with
  | .finished => task.moveTo .done
  | .failed => task.givenBack
  | .parked => task.moveTo .parked

end Outcome

/-- The turn of one worker. -/
structure Turn (Owner Time : Type) where
  owner : Owner
  deadline : Time
  now : Time
  outcome : Outcome
  deriving Repr, DecidableEq

/-- What a turn does to the task it serves. -/
def Turn.serves
    (turn : Turn Owner Time)
    (task : Task Owner Time Label) : Task Owner Time Label :=
  turn.outcome.ends (task.takenBy turn.owner turn.deadline)

/-- The number of turns a task may still take. -/
def Task.turnsLeft (task : Task Owner Time Label) : Nat :=
  if task.phase.isSettled then
    0
  else
    (max 1 (task.limit - task.attempts)).toNat

/-- The number of turns all tasks together may still take. -/
def Board.backlog (board : Board Id Owner Time Label) : Nat :=
  (board.values.map Task.turnsLeft).sum

/-- Every task is done or parked. -/
def Board.AllSettled (board : Board Id Owner Time Label) : Prop :=
  ∀ task ∈ board.values, task.phase.isSettled = true

/-- Every task that is held is held under a lease that has passed. -/
def Board.LeasesLapsed
    [LT Time]
    [DecidableLT Time]
    (board : Board Id Owner Time Label)
    (now : Time) : Prop :=
  ∀ task ∈ board.values,
    task.phase.owner?.isSome = true → task.phase.isOverdue now = true

/-- While no lease is running, the free places are those not settled. -/
theorem Phase.isFree_eq
    [LT Time]
    [DecidableLT Time]
    {phase : Phase Owner Time}
    {now : Time}
    (lapsed : phase.owner?.isSome = true → phase.isOverdue now = true) :
    phase.isFree now = !phase.isSettled := by
  cases phase with
  | held owner deadline? =>
      have passed : (held owner deadline?).isOverdue now = true := lapsed rfl
      simp [isFree, isSettled, passed]
  | _ =>
      rfl

namespace Task

/-- A settled task takes no turn, any other one takes some. -/
theorem turnsLeft_eq_zero_iff
    {task : Task Owner Time Label} :
    task.turnsLeft = 0 ↔ task.phase.isSettled = true := by
  unfold turnsLeft
  cases task.phase.isSettled with
  | true =>
      simp
  | false =>
      simp only [Bool.false_eq_true, ↓reduceIte, iff_false]
      omega

/-- A turn that fails costs a task one turn. -/
theorem turnsLeft_failed
    {task : Task Owner Time Label}
    (unsettled : task.phase.isSettled = false)
    (owner : Owner)
    (deadline : Time) :
    (task.takenBy owner deadline).givenBack.turnsLeft + 1 =
      task.turnsLeft := by
  by_cases exhausted : task.limit ≤ (task.attempts : Int) + 1
  · have parked :
        (task.takenBy owner deadline).givenBack.turnsLeft = 0 := by
      rw [turnsLeft_eq_zero_iff]
      simp [givenBack, takenBy, moveTo, exhausted, Phase.isSettled]
    rw [parked, turnsLeft, unsettled]
    simp only [Bool.false_eq_true, ↓reduceIte]
    omega
  · have waits :
        (task.takenBy owner deadline).givenBack =
          { task with phase := .waiting, attempts := task.attempts + 1 } := by
      simp [givenBack, takenBy, moveTo, exhausted]
    rw [waits, turnsLeft, turnsLeft, unsettled]
    simp only [Phase.isSettled, Bool.false_eq_true, ↓reduceIte]
    omega

/-- A turn costs a task at least one turn. -/
theorem turnsLeft_serves
    {task : Task Owner Time Label}
    (unsettled : task.phase.isSettled = false)
    (turn : Turn Owner Time) :
    (turn.serves task).turnsLeft + 1 ≤ task.turnsLeft := by
  have some_left : 1 ≤ task.turnsLeft := by
    rw [Nat.one_le_iff_ne_zero, ne_eq, turnsLeft_eq_zero_iff, unsettled]
    exact Bool.false_ne_true
  cases ended : turn.outcome with
  | finished =>
      have settled : (turn.serves task).turnsLeft = 0 := by
        rw [turnsLeft_eq_zero_iff, Turn.serves, ended]
        rfl
      omega
  | parked =>
      have settled : (turn.serves task).turnsLeft = 0 := by
        rw [turnsLeft_eq_zero_iff, Turn.serves, ended]
        rfl
      omega
  | failed =>
      rw [Turn.serves, ended]
      exact (turnsLeft_failed unsettled turn.owner turn.deadline).le

end Task

namespace Board

variable {board : Board Id Owner Time Label}

/-- Nothing is left to do exactly when every task is settled. -/
theorem backlog_eq_zero_iff :
    backlog board = 0 ↔ AllSettled board := by
  simp only [backlog, AllSettled, List.sum_eq_zero_iff_forall_eq_nat,
    List.mem_map, forall_exists_index, and_imp, forall_apply_eq_imp_iff₂,
    Task.turnsLeft_eq_zero_iff]

/-- The backlog around one entry. -/
theorem backlog_of_entries
    {earlier later : List (Id × Task Owner Time Label)}
    {id : Id}
    {task : Task Owner Time Label}
    (shape : board.entries = earlier ++ (id, task) :: later) :
    backlog board =
      (earlier.map fun entry => entry.2.turnsLeft).sum + task.turnsLeft +
        (later.map fun entry => entry.2.turnsLeft).sum := by
  simp [backlog, OrderedDict.values, shape, Function.comp_def, Nat.add_assoc]

end Board

section Turns

variable [DecidableEq Id] [DecidableEq Owner] [DecidableEq Label]
variable [LT Time] [DecidableLT Time]

/-- Take the oldest free task and end the turn on it. -/
def work
    (board : Board Id Owner Time Label)
    (turn : Turn Owner Time) : Board Id Owner Time Label × Option Id :=
  match take board turn.owner (some turn.deadline) turn.now with
  | (taken, .took (some id)) =>
      ((step taken (turn.outcome.command id turn.owner)).1, some id)
  | (taken, _) => (taken, none)

/-- Turns one after the other, each when no lease is running. -/
def workMachine :
    Machine (Board Id Owner Time Label) (Turn Owner Time) (Option Id) where
  step := work
  admits := fun board turn => Board.LeasesLapsed board turn.now

variable {board : Board Id Owner Time Label}
variable {turn : Turn Owner Time}
variable {turns : List (Turn Owner Time)}

theorem admitted_cons :
    workMachine.Admitted board (turn :: turns) ↔
      Board.LeasesLapsed board turn.now ∧
        workMachine.Admitted (work board turn).1 turns :=
  Iff.rfl

theorem final_cons :
    workMachine.final board (turn :: turns) =
      workMachine.final (work board turn).1 turns :=
  rfl

/-- The call that ends a turn is accepted from the worker that took the task. -/
theorem step_command
    {id : Id}
    {task : Task Owner Time Label}
    (stored : board.get? id = some task)
    (held : task.phase.isHeldBy turn.owner = true) :
    (step board (turn.outcome.command id turn.owner)).1 =
      board.modify id turn.outcome.ends := by
  cases turn.outcome with
  | finished =>
      simp only [Outcome.command, step, holderCall, stored, held, ↓reduceIte]
      rfl
  | failed =>
      simp only [Outcome.command, step, holderCall, stored, held, ↓reduceIte]
      rfl
  | parked =>
      simp only [Outcome.command, step, holderCall, stored, held, ↓reduceIte]
      rfl

/--
All a turn can do: nothing, when every task is settled, and otherwise serve the
oldest task that is not.
-/
theorem work_cases
    (lapsed : Board.LeasesLapsed board turn.now) :
    (Board.AllSettled board ∧ work board turn = (board, none)) ∨
      ∃ earlier id task later,
        board.entries = earlier ++ (id, task) :: later ∧
          (∀ entry ∈ earlier, entry.2.phase.isSettled = true) ∧
            task.phase.isSettled = false ∧
              work board turn = (board.modify id turn.serves, some id) := by
  have freeIff : ∀ entry ∈ board.entries,
      entry.2.phase.isFree turn.now = !entry.2.phase.isSettled := by
    intro entry member
    exact Phase.isFree_eq (lapsed entry.2 (List.mem_map_of_mem member))
  cases scan : board.firstWhere? fun task => task.phase.isFree turn.now with
  | none =>
      refine Or.inl ⟨?_, by simp [work, take, scan]⟩
      intro task member
      obtain ⟨entry, stored, rfl⟩ := List.mem_map.mp member
      have refused := List.find?_eq_none.mp scan entry stored
      simpa [freeIff entry stored] using refused
  | some found =>
      obtain ⟨id, task⟩ := found
      obtain ⟨free, earlier, later, shape, refused⟩ :=
        List.find?_eq_some_iff_append.mp scan
      refine Or.inr ⟨earlier, id, task, later, shape, ?_, ?_, ?_⟩
      · intro entry member
        have stored : entry ∈ board.entries := by
          rw [shape]
          exact List.mem_append_left _ member
        simpa [freeIff entry stored] using refused entry member
      · have stored : (id, task) ∈ board.entries := by simp [shape]
        simpa [freeIff (id, task) stored] using free
      · have stored : board.get? id = some task :=
          (OrderedDict.get?_of_firstWhere? scan).1
        have takenStored :
            (board.modify id fun task =>
              task.takenBy turn.owner turn.deadline).get? id =
                some (task.takenBy turn.owner turn.deadline) := by
          simp [OrderedDict.get?_modify, stored]
        simp only [work, take, scan]
        rw [step_command takenStored (by
            simp [Task.takenBy, Phase.isHeldBy, Phase.owner?]),
          OrderedDict.modify_modify]
        rfl

/-- A turn keeps the tasks in their order. -/
theorem keys_work
    (lapsed : Board.LeasesLapsed board turn.now) :
    (work board turn).1.keys = board.keys := by
  rcases work_cases lapsed with ⟨_, idle⟩ | ⟨_, id, _, _, _, _, _, served⟩
  · rw [idle]
  · rw [served, OrderedDict.keys_modify]

/-- A turn costs the board at least one turn. -/
theorem backlog_work
    (lapsed : Board.LeasesLapsed board turn.now) :
    Board.backlog (work board turn).1 ≤ Board.backlog board - 1 := by
  rcases work_cases lapsed with
    ⟨settled, idle⟩ | ⟨earlier, id, task, later, shape, _, unsettled, served⟩
  · simp [idle, Board.backlog_eq_zero_iff.mpr settled]
  · have cost := Task.turnsLeft_serves unsettled turn
    rw [served, Board.backlog_of_entries shape,
      Board.backlog_of_entries (OrderedDict.entries_modify shape turn.serves)]
    omega

/-- A turn that fails costs the board exactly one turn. -/
theorem backlog_work_failed
    (lapsed : Board.LeasesLapsed board turn.now)
    (failed : turn.outcome = .failed) :
    Board.backlog (work board turn).1 = Board.backlog board - 1 := by
  rcases work_cases lapsed with
    ⟨settled, idle⟩ | ⟨earlier, id, task, later, shape, _, unsettled, served⟩
  · simp [idle, Board.backlog_eq_zero_iff.mpr settled]
  · have cost : (turn.serves task).turnsLeft + 1 = task.turnsLeft := by
      rw [Turn.serves, failed]
      exact Task.turnsLeft_failed unsettled turn.owner turn.deadline
    rw [served, Board.backlog_of_entries shape,
      Board.backlog_of_entries (OrderedDict.entries_modify shape turn.serves)]
    omega

/-- A settled task is left as it is. -/
theorem get?_work_of_settled
    (lapsed : Board.LeasesLapsed board turn.now)
    {id : Id}
    {task : Task Owner Time Label}
    (stored : board.get? id = some task)
    (settled : task.phase.isSettled = true) :
    (work board turn).1.get? id = some task ∧
      (work board turn).2 ≠ some id := by
  rcases work_cases lapsed with
    ⟨_, idle⟩ | ⟨earlier, other, served, later, shape, _, unsettled, worked⟩
  · rw [idle]
    exact ⟨stored, by simp⟩
  · have otherStored : board.get? other = some served := by
      rw [OrderedDict.get?_eq_some_iff, shape]
      simp
    have apart : other ≠ id := by
      rintro rfl
      rw [otherStored, Option.some.injEq] at stored
      rw [stored, settled] at unsettled
      cases unsettled
    rw [worked, OrderedDict.get?_modify, if_neg apart.symm]
    exact ⟨stored, by simpa using apart⟩

section Runs

/-- Turns cost the board at least as many turns. -/
theorem backlog_final
    (admitted : workMachine.Admitted board turns) :
    Board.backlog (workMachine.final board turns) ≤
      Board.backlog board - turns.length := by
  induction turns generalizing board with
  | nil =>
      simp
  | cons turn rest inductionHypothesis =>
      obtain ⟨lapsed, restAdmitted⟩ := admitted_cons.mp admitted
      have afterFirst := backlog_work lapsed
      have afterRest := inductionHypothesis restAdmitted
      rw [final_cons, List.length_cons]
      omega

/-- Turns that all fail cost the board exactly as many turns. -/
theorem backlog_final_failed
    (admitted : workMachine.Admitted board turns)
    (failed : ∀ turn ∈ turns, turn.outcome = .failed) :
    Board.backlog (workMachine.final board turns) =
      Board.backlog board - turns.length := by
  induction turns generalizing board with
  | nil =>
      simp
  | cons turn rest inductionHypothesis =>
      obtain ⟨lapsed, restAdmitted⟩ := admitted_cons.mp admitted
      have afterFirst := backlog_work_failed lapsed
        (failed turn List.mem_cons_self)
      have afterRest := inductionHypothesis restAdmitted
        (fun later member => failed later (List.mem_cons_of_mem turn member))
      rw [final_cons, List.length_cons]
      omega

/-- The tasks turns served, oldest turn first. -/
def servedIds
    (board : Board Id Owner Time Label)
    (turns : List (Turn Owner Time)) : List Id :=
  (workMachine.trace board turns).filterMap Executed.reply

theorem servedIds_cons (turn : Turn Owner Time) :
    servedIds board (turn :: turns) =
      (work board turn).2.toList ++
        servedIds (work board turn).1 turns := by
  rw [servedIds, Machine.trace_cons, List.filterMap_cons]
  change (match (work board turn).2 with
    | none => servedIds (work board turn).1 turns
    | some id => id :: servedIds (work board turn).1 turns) = _
  cases (work board turn).2 <;> rfl

/-- A settled task is not served any more. -/
theorem not_mem_servedIds
    (admitted : workMachine.Admitted board turns)
    {id : Id}
    {task : Task Owner Time Label}
    (stored : board.get? id = some task)
    (settled : task.phase.isSettled = true) :
    id ∉ servedIds board turns := by
  induction turns generalizing board with
  | nil =>
      simp [servedIds]
  | cons turn rest inductionHypothesis =>
      obtain ⟨lapsed, restAdmitted⟩ := admitted_cons.mp admitted
      obtain ⟨stillStored, notServed⟩ :=
        get?_work_of_settled lapsed stored settled
      have notLater := inductionHypothesis restAdmitted stillStored
      rw [servedIds_cons, List.mem_append, not_or]
      exact ⟨by simpa using notServed, notLater⟩

/-- Turns serve tasks of the board only. -/
theorem servedIds_subset
    (admitted : workMachine.Admitted board turns)
    {id : Id}
    (served : id ∈ servedIds board turns) :
    id ∈ board.keys := by
  induction turns generalizing board with
  | nil =>
      simp [servedIds] at served
  | cons turn rest inductionHypothesis =>
      obtain ⟨lapsed, restAdmitted⟩ := admitted_cons.mp admitted
      rw [servedIds_cons, List.mem_append] at served
      rcases served with now | later
      · rcases work_cases lapsed with
          ⟨_, idle⟩ | ⟨_, first, _, _, shape, _, _, worked⟩
        · simp [idle] at now
        · have same : id = first := by simpa [worked] using now
          simp [OrderedDict.keys, shape, same]
      · rw [← keys_work lapsed]
        exact inductionHypothesis restAdmitted later

/-- Tasks are served one after the other, in the order of the board. -/
theorem servedIds_ordered
    (admitted : workMachine.Admitted board turns) :
    (servedIds board turns).Pairwise fun first later =>
      first = later ∨ [first, later].Sublist board.keys := by
  induction turns generalizing board with
  | nil =>
      simp [servedIds]
  | cons turn rest inductionHypothesis =>
      obtain ⟨lapsed, restAdmitted⟩ := admitted_cons.mp admitted
      have laterOrdered := inductionHypothesis restAdmitted
      rw [← keys_work lapsed, servedIds_cons]
      rcases work_cases lapsed with
        ⟨_, idle⟩ | ⟨earlier, id, task, later, shape, settled, _, worked⟩
      · rw [idle] at laterOrdered ⊢
        exact laterOrdered
      · have nextEntries :=
          OrderedDict.entries_modify shape turn.serves
        rw [worked] at laterOrdered restAdmitted ⊢
        refine List.pairwise_cons.mpr ⟨?_, laterOrdered⟩
        intro other served
        have stored := servedIds_subset restAdmitted served
        rw [OrderedDict.keys, nextEntries] at stored ⊢
        simp only [List.map_append, List.map_cons, List.mem_append,
          List.mem_cons] at stored ⊢
        rcases stored with before | same | behind
        · -- An older task is settled, so no later turn serves it.
          obtain ⟨entry, member, rfl⟩ := List.mem_map.mp before
          have found :
              (board.modify id turn.serves).get? entry.1 = some entry.2 := by
            rw [OrderedDict.get?_eq_some_iff, nextEntries]
            exact List.mem_append_left _ member
          exact (not_mem_servedIds restAdmitted found (settled entry member)
            served).elim
        · exact Or.inl same.symm
        · have pair : [id, other].Sublist (id :: later.map Prod.fst) :=
            (List.singleton_sublist.mpr behind).cons_cons id
          exact Or.inr (pair.trans (List.sublist_append_right _ _))

end Runs

end Turns

end LeaseBoard
