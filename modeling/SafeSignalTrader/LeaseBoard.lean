import SafeSignalTrader.OrderedDict
import SafeSignalTrader.RunSemantics

/-!
# Tasks under leases

A board of tasks in the order in which they were filed.  A task waits, is held
by one owner until a deadline, is done, or is parked; these are all the places
it can stand in, and a call on it is accepted exactly from the owner that
holds it.

A call that asks for a lease without an end is interrupted.  An interrupted
take has put the owner's name on the task and left the deadline it found, so a
task can also be held without a deadline, out of reach of every other owner.
-/

namespace LeaseBoard

open RunSemantics

variable {Id Owner Time Label : Type}

/-- Where a task stands. -/
inductive Phase (Owner Time : Type) where
  | waiting
  | held (owner : Owner) (deadline? : Option Time)
  | done
  | parked
  deriving Repr, DecidableEq

namespace Phase

/-- The owner that holds the task. -/
def owner? : Phase Owner Time → Option Owner
  | .held owner _ => some owner
  | _ => none

/-- The deadline of the lease the task is held under. -/
def deadline? : Phase Owner Time → Option Time
  | .held _ deadline? => deadline?
  | _ => none

/-- Whether an owner holds the task. -/
def isHeldBy [DecidableEq Owner]
    (phase : Phase Owner Time)
    (owner : Owner) : Bool :=
  decide (phase.owner? = some owner)

/-- Whether the task is held under a lease that has passed. -/
def isOverdue [LT Time] [DecidableLT Time]
    (phase : Phase Owner Time)
    (now : Time) : Bool :=
  match phase with
  | .held _ (some deadline) => decide (deadline < now)
  | _ => false

/-- Whether the task can be taken. -/
def isFree [LT Time] [DecidableLT Time]
    (phase : Phase Owner Time)
    (now : Time) : Bool :=
  match phase with
  | .waiting => true
  | phase => phase.isOverdue now

/-- Whether the task has left the board's working set. -/
def isSettled : Phase Owner Time → Bool
  | .done => true
  | .parked => true
  | _ => false

end Phase

/-- A task with its label, how often it was taken and how often it may be. -/
structure Task (Owner Time Label : Type) where
  phase : Phase Owner Time
  label : Option Label
  attempts : Nat
  limit : Int
  deriving Repr, DecidableEq

namespace Task

/-- The task in the hands of an owner. -/
def takenBy
    (task : Task Owner Time Label)
    (owner : Owner)
    (deadline : Time) : Task Owner Time Label :=
  { task with
    phase := .held owner (some deadline)
    attempts := task.attempts + 1 }

/-- The task in the hands of an owner whose take was interrupted. -/
def seizedBy
    (task : Task Owner Time Label)
    (owner : Owner) : Task Owner Time Label :=
  { task with phase := .held owner task.phase.deadline? }

/-- The task at another place. -/
def moveTo
    (task : Task Owner Time Label)
    (phase : Phase Owner Time) : Task Owner Time Label :=
  { task with phase := phase }

/-- The task given back: it waits while attempts are left. -/
def givenBack (task : Task Owner Time Label) : Task Owner Time Label :=
  task.moveTo (if task.limit ≤ (task.attempts : Int) then .parked else .waiting)

/-- The task after overdue leases were called in. -/
def calledIn [LT Time] [DecidableLT Time]
    (task : Task Owner Time Label)
    (now : Time) : Task Owner Time Label :=
  if task.phase.isOverdue now then task.moveTo .waiting else task

end Task

/-- Tasks by id, oldest first. -/
abbrev Board (Id Owner Time Label : Type) :=
  OrderedDict Id (Task Owner Time Label)

/-- One call on a board. -/
inductive Command (Id Owner Time Label : Type) where
  | file (id : Id) (label : Option Label) (limit : Int)
  | take (owner : Owner) (deadline? : Option Time) (now : Time)
  | extend (id : Id) (owner : Owner) (deadline? : Option Time)
  | finish (id : Id) (owner : Owner)
  | giveBack (id : Id) (owner : Owner)
  | park (id : Id) (owner : Owner)
  | callIn (now : Time)
  deriving Repr, DecidableEq

/-- The answer to a call. -/
inductive Answer (Id : Type) where
  | filed (id : Id)
  | took (id? : Option Id)
  | accepted (answer : Bool)
  | calledIn (count : Nat)
  | interrupted
  deriving Repr, DecidableEq

section Calls

variable [DecidableEq Id]

/-- File a task, unless its label is in use. -/
def file [DecidableEq Label]
    (board : Board Id Owner Time Label)
    (id : Id)
    (label : Option Label)
    (limit : Int) : Board Id Owner Time Label × Id :=
  match label.bind fun label =>
      board.firstWhere? fun task => task.label = some label with
  | some (found, _) => (board, found)
  | none => (board.set id ⟨.waiting, label, 0, limit⟩, id)

/-- Take the oldest free task. -/
def take [LT Time] [DecidableLT Time]
    (board : Board Id Owner Time Label)
    (owner : Owner)
    (deadline? : Option Time)
    (now : Time) : Board Id Owner Time Label × Answer Id :=
  match board.firstWhere? fun task => task.phase.isFree now with
  | some (id, _) =>
      match deadline? with
      | some deadline =>
          (board.modify id fun task => task.takenBy owner deadline,
            .took (some id))
      | none =>
          (board.modify id fun task => task.seizedBy owner, .interrupted)
  | none => (board, .took none)

/-- Change a task its caller holds. -/
def holderCall [DecidableEq Owner]
    (board : Board Id Owner Time Label)
    (id : Id)
    (owner : Owner)
    (change : Task Owner Time Label → Task Owner Time Label) :
    Board Id Owner Time Label × Bool :=
  match board.get? id with
  | none => (board, false)
  | some task =>
      if task.phase.isHeldBy owner then
        (board.modify id change, true)
      else
        (board, false)

/-- Whether an owner holds the task of an id. -/
def isHeldBy [DecidableEq Owner]
    (board : Board Id Owner Time Label)
    (id : Id)
    (owner : Owner) : Bool :=
  (board.get? id).any fun task => task.phase.isHeldBy owner

/-- A call on a task that its caller does not hold is refused. -/
theorem holderCall_of_not_held [DecidableEq Owner]
    {board : Board Id Owner Time Label}
    {id : Id}
    {owner : Owner}
    {change : Task Owner Time Label → Task Owner Time Label}
    (notHeld : isHeldBy board id owner = false) :
    holderCall board id owner change = (board, false) := by
  unfold holderCall
  cases stored : board.get? id with
  | none =>
      rfl
  | some task =>
      have foreign : task.phase.isHeldBy owner = false := by
        simpa [isHeldBy, stored] using notHeld
      simp [foreign]

/-- Extend the lease of a task its caller holds. -/
def extend [DecidableEq Owner]
    (board : Board Id Owner Time Label)
    (id : Id)
    (owner : Owner)
    (deadline? : Option Time) : Board Id Owner Time Label × Answer Id :=
  if isHeldBy board id owner = true ∧ deadline? = none then
    (board, .interrupted)
  else
    let call := holderCall board id owner fun task =>
      task.moveTo (.held owner deadline?)
    (call.1, .accepted call.2)

/-- Call in every lease that has passed. -/
def callIn [LT Time] [DecidableLT Time]
    (board : Board Id Owner Time Label)
    (now : Time) : Board Id Owner Time Label × Nat :=
  (board.mapValues fun task => task.calledIn now,
    board.values.countP fun task => task.phase.isOverdue now)

variable [DecidableEq Owner] [DecidableEq Label] [LT Time] [DecidableLT Time]

/-- Perform one call. -/
def step
    (board : Board Id Owner Time Label) :
    Command Id Owner Time Label → Board Id Owner Time Label × Answer Id
  | .file id label limit =>
      ((file board id label limit).1, .filed (file board id label limit).2)
  | .take owner deadline? now => take board owner deadline? now
  | .extend id owner deadline? => extend board id owner deadline?
  | .finish id owner =>
      ((holderCall board id owner fun task => task.moveTo .done).1,
        .accepted (holderCall board id owner fun task =>
          task.moveTo .done).2)
  | .giveBack id owner =>
      ((holderCall board id owner Task.givenBack).1,
        .accepted (holderCall board id owner Task.givenBack).2)
  | .park id owner =>
      ((holderCall board id owner fun task => task.moveTo .parked).1,
        .accepted (holderCall board id owner fun task =>
          task.moveTo .parked).2)
  | .callIn now => ((callIn board now).1, .calledIn (callIn board now).2)

/-- The board as a machine without assumptions. -/
def boardMachine :
    Machine (Board Id Owner Time Label) (Command Id Owner Time Label)
      (Answer Id) where
  step := step
  admits := fun _ _ => True

end Calls

end LeaseBoard
