import SafeSignalTrader.DomainModels
import SafeSignalTrader.TransitionTables

/-!
# The life cycle of a trade

`TradeStateMachine` of `core/position/state_machine.py`.  A trade goes through
four stages and never goes back to an earlier one; only within the second stage,
where it is open, closing or under review, does it return to a status it had
before.
-/

namespace SafeSignalTrader

open RunSemantics
open TransitionTables

/-- Status of a trade. -/
inductive TradeStatus where
  | pendingEntry
  | opened
  | closing
  | closed
  | archived
  | manualReview
  deriving Repr, DecidableEq

/-- The stored value of a trade status. -/
def TradeStatus.value : TradeStatus → String
  | .pendingEntry => "PENDING_ENTRY"
  | .opened => "OPEN"
  | .closing => "CLOSING"
  | .closed => "CLOSED"
  | .archived => "ARCHIVED"
  | .manualReview => "MANUAL_REVIEW"

namespace TradeStateMachine

/-- `_TRANSITIONS`. -/
def transitions : TradeStatus → List TradeStatus
  | .pendingEntry => [.opened, .closed, .manualReview]
  | .opened => [.closing, .closed, .manualReview]
  | .closing => [.closed, .manualReview, .opened]
  | .closed => [.archived]
  | .archived => []
  | .manualReview => [.opened, .closed, .archived]

/-- `can_transition`. -/
def canTransition (current target : TradeStatus) : Bool :=
  decide (target ∈ transitions current)

/-- `transition`. -/
def transition
    (current target : TradeStatus) : Except PyException TradeStatus :=
  if canTransition current target then
    .ok target
  else
    .error (.valueError
      ("illegal transition " ++ current.value ++ " → " ++ target.value))

/-- A trade under attempted transitions: one that raises leaves its status. -/
def tradeMachine :
    Machine TradeStatus TradeStatus (Except PyException TradeStatus) where
  step := fun current target =>
    (((transition current target).toOption).getD current,
      transition current target)
  admits := fun _ _ => True

/-- The stage of its life a trade is in. -/
def stage : TradeStatus → Nat
  | .pendingEntry => 0
  | .opened => 1
  | .closing => 1
  | .manualReview => 1
  | .closed => 2
  | .archived => 3

variable {current target : TradeStatus}
variable {requests : List TradeStatus}

/-- A transition in the table returns the requested status. -/
theorem transition_of_listed
    (listed : target ∈ transitions current) :
    transition current target = .ok target := by
  simp [transition, canTransition, listed]

/-- A transition outside the table raises. -/
theorem transition_of_refused
    (refused : target ∉ transitions current) :
    transition current target =
      .error (.valueError
        ("illegal transition " ++ current.value ++ " → " ++
          target.value)) := by
  simp [transition, canTransition, refused]

/-- Attempted transitions are requests to the table. -/
def tradeRefinesRequests :
    Machine.Refinement tradeMachine (requestMachine transitions) where
  holds := fun _ => True
  view := id
  command := id
  answer := fun reply => reply.toOption.isSome
  preserved := fun _ _ _ _ => trivial
  admitted := fun _ _ _ _ => trivial
  commutes := by
    intro current target _ _
    change request transitions current target = _
    by_cases listed : target ∈ transitions current
    · rw [request_of_listed listed]
      simp [tradeMachine, transition_of_listed listed, Except.toOption]
    · rw [request_of_refused listed]
      simp [tradeMachine, transition_of_refused listed, Except.toOption]

/-- No transition goes back to an earlier stage. -/
theorem transitions_ranked : Ranked transitions stage := by
  intro current target entry
  cases current <;> cases target <;>
    first
    | decide
    | exact absurd entry (by decide)

/-- A closed trade only moves on. -/
theorem transitions_settled
    (current : TradeStatus)
    (settled : 2 ≤ stage current)
    (target : TradeStatus)
    (entry : target ∈ transitions current) :
    stage current < stage target := by
  cases current <;> cases target <;>
    first
    | decide
    | exact absurd settled (by decide)
    | exact absurd entry (by decide)

/-- The records of the transitions a run made, oldest first. -/
def moves
    (current : TradeStatus) (requests : List TradeStatus) :
    List (Executed TradeStatus TradeStatus
      (Except PyException TradeStatus)) :=
  (tradeMachine.trace current requests).filter fun executed =>
    executed.reply.toOption.isSome

/-- A short way from one status to another one. -/
def route (current target : TradeStatus) : List TradeStatus :=
  if current = target then
    []
  else if target ∈ transitions current then
    [target]
  else if target = .archived then
    [.closed, target]
  else
    [.opened, target]

/-- A run of attempted transitions is a run of requests to the table. -/
theorem run_requests :
    (requestMachine transitions).final current requests =
        tradeMachine.final current requests ∧
      ((requestMachine transitions).trace current requests).map
          Executed.reply =
        (tradeMachine.trace current requests).map fun executed =>
          executed.reply.toOption.isSome := by
  have asRequests :=
    tradeRefinesRequests.run trivial
      (tradeMachine.admitted_of_always (fun _ _ => trivial)
        current requests)
  simpa [tradeRefinesRequests] using asRequests

/-- A run makes as many transitions as the table grants it requests. -/
theorem length_moves :
    (moves current requests).length =
      (granted transitions current requests).length := by
  have sameReplies :
      ((requestMachine transitions).trace current requests).map
          Executed.reply =
        (tradeMachine.trace current requests).map fun executed =>
          executed.reply.toOption.isSome :=
    run_requests.2
  have sameLength :=
    congrArg (fun replies => (replies.filter id).length) sameReplies
  simpa [moves, granted, List.filter_map, Function.comp_def] using
    sameLength.symm

/-- The stage never falls over a run of attempted transitions. -/
theorem stage_final :
    stage current ≤ stage (tradeMachine.final current requests) := by
  rw [← run_requests.1]
  exact transitions_ranked.le_of_leads leads_final

/-- An attempt either moves to a listed status or raises and changes nothing. -/
theorem execute_cases :
    (target ∈ transitions current ∧
        (tradeMachine.execute current target).after = target ∧
        (tradeMachine.execute current target).reply = .ok target) ∨
      (target ∉ transitions current ∧
        (tradeMachine.execute current target).after = current ∧
        (tradeMachine.execute current target).reply =
          .error (.valueError
            ("illegal transition " ++ current.value ++ " → " ++
              target.value))) := by
  by_cases listed : target ∈ transitions current
  · refine .inl ⟨listed, ?_, transition_of_listed listed⟩
    change (transition current target).toOption.getD current = target
    rw [transition_of_listed listed]
    rfl
  · refine .inr ⟨listed, ?_, transition_of_refused listed⟩
    change (transition current target).toOption.getD current = current
    rw [transition_of_refused listed]
    rfl

/-- The short way arrives wherever the stages allow one to. -/
theorem final_route
    (allowed : stage current ≤ stage target) :
    tradeMachine.final current (route current target) = target := by
  cases current <;> cases target <;>
    first
    | rfl
    | exact absurd allowed (by decide)

/-- The short way has at most two attempts. -/
theorem length_route : (route current target).length ≤ 2 := by
  unfold route
  split_ifs <;> simp

/--
Attempted transitions lead from one status to another exactly if the stages do
not fall, and then two of them are enough.  In any run an attempt is granted
exactly if the table lists it, a refused one raises the two statuses and
changes nothing, and a trade that is closed moves at most once more.
-/
theorem tradeLifeCycle (status : TradeStatus) :
    (∀ target,
      ((∃ requests, tradeMachine.final status requests = target) ↔
          stage status ≤ stage target) ∧
        (stage status ≤ stage target →
          ∃ requests, requests.length ≤ 2 ∧
            tradeMachine.final status requests = target)) ∧
      ∀ requests,
        (∀ executed ∈ tradeMachine.trace status requests,
          (executed.op ∈ transitions executed.before ∧
              executed.after = executed.op ∧
              executed.reply = .ok executed.op) ∨
            (executed.op ∉ transitions executed.before ∧
              executed.after = executed.before ∧
              executed.reply =
                .error (.valueError
                  ("illegal transition " ++ executed.before.value ++ " → " ++
                    executed.op.value)))) ∧
          (2 ≤ stage status →
            stage status + (moves status requests).length ≤
              stage (tradeMachine.final status requests)) := by
  refine ⟨fun target => ⟨⟨?_, ?_⟩, ?_⟩, fun requests => ⟨?_, ?_⟩⟩
  · rintro ⟨requests, rfl⟩
    exact stage_final
  · intro allowed
    exact ⟨route status target, final_route allowed⟩
  · intro allowed
    exact ⟨route status target, length_route, final_route allowed⟩
  · intro executed member
    obtain ⟨earlier, target, later, -, rfl⟩ :=
      tradeMachine.exists_split_of_mem_trace member
    exact execute_cases
  · intro settled
    rw [length_moves, ← run_requests.1]
    exact granted_length transitions_settled settled

end TradeStateMachine

end SafeSignalTrader
