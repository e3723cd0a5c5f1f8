import Mathlib.Logic.Relation
import SafeSignalTrader.RunSemantics

/-!
# Transition tables

A status that changes by requests: one is granted when a table lists the
requested status behind the current one, and refused otherwise.  Where a
sequence of requests can lead is where the table leads.
-/

namespace TransitionTables

open RunSemantics

variable {Status : Type}

/-- The table leads from one status to another. -/
abbrev Leads (table : Status → List Status) : Status → Status → Prop :=
  Relation.ReflTransGen fun current target => target ∈ table current

/-- No entry of the table leads to a lower rank. -/
def Ranked (table : Status → List Status) (rank : Status → Nat) : Prop :=
  ∀ current, ∀ target ∈ table current, rank current ≤ rank target

/-- A table never leads to a lower rank. -/
theorem Ranked.le_of_leads
    {table : Status → List Status}
    {rank : Status → Nat}
    (ranked : Ranked table rank)
    {first last : Status}
    (leads : Leads table first last) :
    rank first ≤ rank last := by
  induction leads with
  | refl => exact Nat.le_refl _
  | tail _ entry inductionHypothesis =>
      exact Nat.le_trans inductionHypothesis (ranked _ _ entry)

section Requests

variable [DecidableEq Status]
variable (table : Status → List Status)

/-- The status after a request and whether it was granted. -/
def request (current target : Status) : Status × Bool :=
  if target ∈ table current then (target, true) else (current, false)

/-- A status under requests. -/
def requestMachine : Machine Status Status Bool where
  step := request table
  admits := fun _ _ => True

/-- The records of the requests a run was granted, oldest first. -/
def granted
    (status : Status) (requests : List Status) :
    List (Executed Status Status Bool) :=
  ((requestMachine table).trace status requests).filter Executed.reply

variable {table}
variable {status target : Status}
variable {requests : List Status}

/-- A listed status is granted. -/
theorem request_of_listed
    (listed : target ∈ table status) :
    request table status target = (target, true) := by
  simp [request, listed]

/-- A status that is not listed is refused. -/
theorem request_of_refused
    (refused : target ∉ table status) :
    request table status target = (status, false) := by
  simp [request, refused]

/-- Requests lead only where the table leads. -/
theorem leads_final :
    Leads table status ((requestMachine table).final status requests) := by
  induction requests generalizing status with
  | nil => exact .refl
  | cons target rest inductionHypothesis =>
      refine Relation.ReflTransGen.trans ?_ inductionHypothesis
      change Leads table status (request table status target).1
      by_cases listed : target ∈ table status
      · rw [request_of_listed listed]
        exact .single listed
      · rw [request_of_refused listed]

/--
Where every entry raises the rank of the statuses from some rank on, the rank
a run gains from there bounds the number of requests it was granted.
-/
theorem granted_length
    {rank : Status → Nat}
    {bound : Nat}
    (raised : ∀ current, bound ≤ rank current →
      ∀ target ∈ table current, rank current < rank target)
    (above : bound ≤ rank status) :
    rank status + (granted table status requests).length ≤
      rank ((requestMachine table).final status requests) := by
  induction requests generalizing status with
  | nil => exact Nat.le_refl _
  | cons target rest inductionHypothesis =>
      by_cases listed : target ∈ table status
      · have step : (requestMachine table).step status target =
            (target, true) :=
          request_of_listed listed
        have higher := raised status above target listed
        have remaining :
            rank target + (granted table target rest).length ≤
              rank ((requestMachine table).final target rest) :=
          inductionHypothesis
            (Nat.le_trans above (Nat.le_of_lt higher))
        have counted :
            granted table status (target :: rest) =
              (requestMachine table).execute status target ::
                granted table target rest := by
          rw [granted, Machine.trace_cons, List.filter_cons_of_pos, step]
          · rfl
          · rw [Machine.execute_reply, step]
        rw [counted, Machine.final_cons, step, List.length_cons]
        change rank status + (_ + 1) ≤
          rank ((requestMachine table).final target rest)
        omega
      · have step : (requestMachine table).step status target =
            (status, false) :=
          request_of_refused listed
        have passed :
            granted table status (target :: rest) =
              granted table status rest := by
          rw [granted, Machine.trace_cons, List.filter_cons_of_neg, step]
          · rfl
          · rw [Machine.execute_reply, step]
            exact Bool.false_ne_true
        rw [passed, Machine.final_cons, step]
        exact inductionHypothesis above

end Requests

end TransitionTables
