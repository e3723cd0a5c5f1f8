import Mathlib.Data.List.Induction

/-!
# Runs of deterministic machines

A machine answers one operation at a time and moves to a next state.  What the
environment supplies (clock readings, random draws, plug-in behaviour) is part
of the operation, so a step is a function; `admits` records what is assumed
about those supplied values in the state they are used in.

The module collects the induction rules for runs: invariants of all reachable
states, invariants relating a state to its whole history, and a simulation
rule for runs from which some operations are erased.
-/

namespace RunSemantics

/-- A deterministic machine together with its environment assumption. -/
structure Machine (State Op Reply : Type) where
  step : State → Op → State × Reply
  admits : State → Op → Prop

/-- One executed operation with the states around it. -/
structure Executed (State Op Reply : Type) where
  before : State
  op : Op
  reply : Reply
  after : State

namespace Machine

variable {State Op Reply : Type}
variable (machine : Machine State Op Reply)

/-- Execute one operation and keep the record of it. -/
def execute (state : State) (op : Op) : Executed State Op Reply where
  before := state
  op := op
  reply := (machine.step state op).2
  after := (machine.step state op).1

/-- The state after a list of operations. -/
def final : State → List Op → State
  | state, [] => state
  | state, op :: rest => final (machine.step state op).1 rest

/-- The records of a list of operations, oldest first. -/
def trace : State → List Op → List (Executed State Op Reply)
  | _, [] => []
  | state, op :: rest =>
      machine.execute state op :: trace (machine.step state op).1 rest

/-- The environment assumption holds at every step of a run. -/
def Admitted : State → List Op → Prop
  | _, [] => True
  | state, op :: rest =>
      machine.admits state op ∧ Admitted (machine.step state op).1 rest

instance decidableAdmitted
    [decide : ∀ state op, Decidable (machine.admits state op)] :
    ∀ state ops, Decidable (machine.Admitted state ops)
  | _, [] => isTrue trivial
  | state, op :: rest =>
      have := decidableAdmitted (machine.step state op).1 rest
      inferInstanceAs
        (Decidable (machine.admits state op ∧
          machine.Admitted (machine.step state op).1 rest))

@[simp] theorem final_nil (state : State) :
    machine.final state [] = state :=
  rfl

@[simp] theorem final_cons (state : State) (op : Op) (rest : List Op) :
    machine.final state (op :: rest) =
      machine.final (machine.step state op).1 rest :=
  rfl

@[simp] theorem trace_nil (state : State) :
    machine.trace state [] = [] :=
  rfl

@[simp] theorem trace_cons (state : State) (op : Op) (rest : List Op) :
    machine.trace state (op :: rest) =
      machine.execute state op ::
        machine.trace (machine.step state op).1 rest :=
  rfl

@[simp] theorem execute_before (state : State) (op : Op) :
    (machine.execute state op).before = state :=
  rfl

@[simp] theorem execute_op (state : State) (op : Op) :
    (machine.execute state op).op = op :=
  rfl

@[simp] theorem execute_reply (state : State) (op : Op) :
    (machine.execute state op).reply = (machine.step state op).2 :=
  rfl

@[simp] theorem execute_after (state : State) (op : Op) :
    (machine.execute state op).after = (machine.step state op).1 :=
  rfl

/-- What is read off a single record. -/
theorem filterMap_execute
    {Observation : Type}
    (read : State → Op → Option Observation)
    (state : State)
    (op : Op) :
    ([machine.execute state op].filterMap fun executed =>
        read executed.before executed.op) =
      (read state op).toList := by
  simp only [List.filterMap_cons, List.filterMap_nil, execute_before,
    execute_op]
  cases read state op <;> rfl

/-- Running two lists in sequence. -/
theorem final_append (state : State) (first second : List Op) :
    machine.final state (first ++ second) =
      machine.final (machine.final state first) second := by
  induction first generalizing state with
  | nil =>
      rfl
  | cons op rest inductionHypothesis =>
      exact inductionHypothesis (machine.step state op).1

/-- The records of two lists run in sequence. -/
theorem trace_append (state : State) (first second : List Op) :
    machine.trace state (first ++ second) =
      machine.trace state first ++
        machine.trace (machine.final state first) second := by
  induction first generalizing state with
  | nil =>
      rfl
  | cons op rest inductionHypothesis =>
      exact congrArg (List.cons (machine.execute state op))
        (inductionHypothesis (machine.step state op).1)

/-- A run is admitted exactly when both of its parts are. -/
theorem admitted_append (state : State) (first second : List Op) :
    machine.Admitted state (first ++ second) ↔
      machine.Admitted state first ∧
        machine.Admitted (machine.final state first) second := by
  induction first generalizing state with
  | nil =>
      simp [Admitted]
  | cons op rest inductionHypothesis =>
      simp [Admitted, inductionHypothesis, and_assoc]

/-- A machine that assumes nothing of its environment admits every run. -/
theorem admitted_of_always
    (always : ∀ state op, machine.admits state op)
    (state : State)
    (ops : List Op) :
    machine.Admitted state ops := by
  induction ops generalizing state with
  | nil =>
      trivial
  | cons op rest inductionHypothesis =>
      exact ⟨always state op, inductionHypothesis _⟩

@[simp] theorem trace_map_op (state : State) (ops : List Op) :
    (machine.trace state ops).map Executed.op = ops := by
  induction ops generalizing state with
  | nil =>
      rfl
  | cons op rest inductionHypothesis =>
      simp [inductionHypothesis]

/-- Every record of a run was made in a state the run had reached before. -/
theorem exists_split_of_mem_trace
    {state : State}
    {ops : List Op}
    {executed : Executed State Op Reply}
    (member : executed ∈ machine.trace state ops) :
    ∃ earlier op later,
      ops = earlier ++ op :: later ∧
        executed = machine.execute (machine.final state earlier) op := by
  induction ops generalizing state with
  | nil =>
      simp at member
  | cons op rest inductionHypothesis =>
      rcases List.mem_cons.mp member with isHead | inRest
      · exact ⟨[], op, rest, rfl, isHead⟩
      · obtain ⟨earlier, next, later, shape, made⟩ :=
          inductionHypothesis inRest
        exact ⟨op :: earlier, next, later, by rw [shape]; rfl, made⟩

/-- What holds of all records of a run holds at every split of it. -/
theorem forall_mem_trace_iff
    {holds : State → Op → Prop}
    {state : State}
    {ops : List Op} :
    (∀ executed ∈ machine.trace state ops,
        holds executed.before executed.op) ↔
      ∀ earlier op later, ops = earlier ++ op :: later →
        holds (machine.final state earlier) op := by
  constructor
  · intro onRecords earlier op later shape
    apply onRecords (machine.execute (machine.final state earlier) op)
    rw [shape, machine.trace_append]
    exact List.mem_append_right _ List.mem_cons_self
  · intro onSplits executed member
    obtain ⟨earlier, op, later, shape, made⟩ :=
      machine.exists_split_of_mem_trace member
    rw [made]
    exact onSplits earlier op later shape

/-- A predicate preserved by every admitted step survives a whole run. -/
theorem invariant
    (holds : State → Prop)
    (preserved : ∀ state op,
      holds state → machine.admits state op →
        holds (machine.step state op).1)
    {state : State}
    {ops : List Op}
    (initially : holds state)
    (admitted : machine.Admitted state ops) :
    holds (machine.final state ops) := by
  induction ops generalizing state with
  | nil =>
      exact initially
  | cons op rest inductionHypothesis =>
      exact inductionHypothesis
        (preserved state op initially admitted.1) admitted.2

/-- A predicate preserved by the operations a run consists of survives it. -/
theorem invariant_of_ops
    (holds : State → Prop)
    {allowed : Op → Prop}
    (preserved : ∀ state op,
      holds state → allowed op → holds (machine.step state op).1)
    {state : State}
    {ops : List Op}
    (initially : holds state)
    (allowedOps : ∀ op ∈ ops, allowed op) :
    holds (machine.final state ops) := by
  induction ops generalizing state with
  | nil =>
      exact initially
  | cons op rest inductionHypothesis =>
      apply inductionHypothesis
      · exact preserved state op initially (allowedOps op List.mem_cons_self)
      · intro later member
        exact allowedOps later (List.mem_cons_of_mem op member)

/--
A predicate on the state and the records that led to it survives a whole run
when every admitted step extends it by the record of that step.
-/
theorem historyInvariant
    (holds : State → List (Executed State Op Reply) → Prop)
    {initial : State}
    (initially : holds initial [])
    (extended : ∀ state past op,
      holds state past → machine.admits state op →
        holds (machine.step state op).1 (past ++ [machine.execute state op]))
    {ops : List Op}
    (admitted : machine.Admitted initial ops) :
    holds (machine.final initial ops) (machine.trace initial ops) := by
  induction ops using List.reverseRecOn with
  | nil =>
      exact initially
  | append_singleton earlier op inductionHypothesis =>
      obtain ⟨earlierAdmitted, lastAdmitted⟩ :=
        (machine.admitted_append initial earlier [op]).mp admitted
      rw [machine.final_append, machine.trace_append]
      exact extended _ _ op
        (inductionHypothesis earlierAdmitted) lastAdmitted.1

/-- States some admitted run leads to. -/
def Reachable (initial state : State) : Prop :=
  ∃ ops, machine.Admitted initial ops ∧ machine.final initial ops = state

namespace Reachable

variable {machine}
variable {initial state : State}

theorem refl (initial : State) : machine.Reachable initial initial :=
  ⟨[], trivial, rfl⟩

/-- One more admitted run stays among the reachable states. -/
theorem extend
    (reachable : machine.Reachable initial state)
    {ops : List Op}
    (admitted : machine.Admitted state ops) :
    machine.Reachable initial (machine.final state ops) := by
  obtain ⟨earlier, earlierAdmitted, rfl⟩ := reachable
  exact ⟨earlier ++ ops,
    (machine.admitted_append initial earlier ops).mpr
      ⟨earlierAdmitted, admitted⟩,
    machine.final_append initial earlier ops⟩

/-- An inductive invariant holds in every reachable state. -/
theorem invariant
    (holds : State → Prop)
    (reachable : machine.Reachable initial state)
    (initially : holds initial)
    (preserved : ∀ state op,
      holds state → machine.admits state op →
        holds (machine.step state op).1) :
    holds state := by
  obtain ⟨ops, admitted, rfl⟩ := reachable
  exact machine.invariant holds preserved initially admitted

end Reachable

/-- The record of a run made in a reachable state. -/
theorem reachable_before_of_mem_trace
    {initial state : State}
    (reachable : machine.Reachable initial state)
    {ops : List Op}
    (admitted : machine.Admitted state ops)
    {executed : Executed State Op Reply}
    (member : executed ∈ machine.trace state ops) :
    machine.Reachable initial executed.before ∧
      machine.admits executed.before executed.op ∧
        executed = machine.execute executed.before executed.op := by
  obtain ⟨earlier, op, later, rfl, rfl⟩ :=
    machine.exists_split_of_mem_trace member
  obtain ⟨earlierAdmitted, restAdmitted⟩ :=
    (machine.admitted_append state earlier (op :: later)).mp admitted
  exact ⟨reachable.extend earlierAdmitted, restAdmitted.1, rfl⟩

section Restriction

variable (extra : State → Op → Prop)

/-- The machine under a further assumption on its steps. -/
def restrict : Machine State Op Reply where
  step := machine.step
  admits := fun state op => machine.admits state op ∧ extra state op

/-- A restricted machine runs alike. -/
theorem final_restrict (state : State) (ops : List Op) :
    (machine.restrict extra).final state ops = machine.final state ops := by
  induction ops generalizing state with
  | nil =>
      rfl
  | cons op rest inductionHypothesis =>
      exact inductionHypothesis (machine.step state op).1

/-- A restricted machine keeps the same records. -/
theorem trace_restrict (state : State) (ops : List Op) :
    (machine.restrict extra).trace state ops = machine.trace state ops := by
  induction ops generalizing state with
  | nil =>
      rfl
  | cons op rest inductionHypothesis =>
      exact congrArg (List.cons (machine.execute state op))
        (inductionHypothesis (machine.step state op).1)

/-- A restricted run is a run all of whose steps meet the assumption. -/
theorem admitted_restrict_iff (state : State) (ops : List Op) :
    (machine.restrict extra).Admitted state ops ↔
      machine.Admitted state ops ∧
        ∀ executed ∈ machine.trace state ops,
          extra executed.before executed.op := by
  induction ops generalizing state with
  | nil =>
      simp [Admitted]
  | cons op rest inductionHypothesis =>
      have later := inductionHypothesis (machine.step state op).1
      simp only [Admitted, trace_cons, List.mem_cons, forall_eq_or_imp,
        execute_before, execute_op]
      rw [show (machine.restrict extra).step = machine.step from rfl, later]
      constructor
      · rintro ⟨⟨admits, meets⟩, restAdmitted, restMeets⟩
        exact ⟨⟨admits, restAdmitted⟩, meets, restMeets⟩
      · rintro ⟨⟨admits, restAdmitted⟩, meets, restMeets⟩
        exact ⟨⟨admits, meets⟩, restAdmitted, restMeets⟩

/-- An invariant of the steps that meet an assumption. -/
theorem invariant_restrict
    (holds : State → Prop)
    (preserved : ∀ state op,
      holds state → machine.admits state op → extra state op →
        holds (machine.step state op).1)
    {initial : State}
    (initially : holds initial)
    {ops : List Op}
    (admitted : machine.Admitted initial ops)
    (meets : ∀ executed ∈ machine.trace initial ops,
      extra executed.before executed.op) :
    holds (machine.final initial ops) := by
  rw [← machine.final_restrict extra]
  apply (machine.restrict extra).invariant holds
  · intro state op holdsHere admitsBoth
    exact preserved state op holdsHere admitsBoth.1 admitsBoth.2
  · exact initially
  · exact (machine.admitted_restrict_iff extra initial ops).mpr
      ⟨admitted, meets⟩

/-- A history invariant of the steps that meet an assumption. -/
theorem historyInvariant_restrict
    (holds : State → List (Executed State Op Reply) → Prop)
    {initial : State}
    (initially : holds initial [])
    (extended : ∀ state past op,
      holds state past → machine.admits state op → extra state op →
        holds (machine.step state op).1 (past ++ [machine.execute state op]))
    {ops : List Op}
    (admitted : machine.Admitted initial ops)
    (meets : ∀ executed ∈ machine.trace initial ops,
      extra executed.before executed.op) :
    holds (machine.final initial ops) (machine.trace initial ops) := by
  rw [← machine.final_restrict extra, ← machine.trace_restrict extra]
  apply (machine.restrict extra).historyInvariant holds initially
  · intro state past op holdsHere admitsBoth
    exact extended state past op holdsHere admitsBoth.1 admitsBoth.2
  · exact (machine.admitted_restrict_iff extra initial ops).mpr
      ⟨admitted, meets⟩

end Restriction

section Erasure

/-- Keep the records whose operation passes a test. -/
def keepRecords
    (keep : Op → Bool)
    (records : List (Executed State Op Reply)) :
    List (Executed State Op Reply) :=
  records.filter fun executed => keep executed.op

/-- A run without erased operations keeps all its records. -/
theorem keepRecords_trace_filter
    (keep : Op → Bool)
    (state : State)
    (ops : List Op) :
    keepRecords keep (machine.trace state (ops.filter keep)) =
      machine.trace state (ops.filter keep) := by
  rw [keepRecords, List.filter_eq_self]
  intro executed member
  have keptOp :
      executed.op ∈
        (machine.trace state (ops.filter keep)).map Executed.op :=
    List.mem_map_of_mem member
  rw [machine.trace_map_op] at keptOp
  exact (List.mem_filter.mp keptOp).2

/--
Simulation of a run by the same run without some operations.

`related` may inspect the history of the full run.  A kept operation moves
both sides and must be admitted and observed alike; an erased one moves the
full run alone.  The premise restricts the full run and has to hold of all its
prefixes.
-/
theorem erasure_simulation
    {Observation : Type}
    (keep : Op → Bool)
    (observe : Executed State Op Reply → Observation)
    (premise : List (Executed State Op Reply) → Prop)
    (related : List (Executed State Op Reply) → State → State → Prop)
    {initial : State}
    (prefixClosed : ∀ past last, premise (past ++ [last]) → premise past)
    (initially : related [] initial initial)
    (kept : ∀ past full reduced op,
      related past full reduced →
      premise (past ++ [machine.execute full op]) →
      keep op = true →
        machine.admits reduced op ∧
          related (past ++ [machine.execute full op])
              (machine.step full op).1 (machine.step reduced op).1 ∧
            observe (machine.execute full op) =
              observe (machine.execute reduced op))
    (erased : ∀ past full reduced op,
      related past full reduced →
      premise (past ++ [machine.execute full op]) →
      keep op = false →
        related (past ++ [machine.execute full op])
          (machine.step full op).1 reduced)
    (ops : List Op)
    (allowed : premise (machine.trace initial ops)) :
    machine.Admitted initial (ops.filter keep) ∧
      related (machine.trace initial ops)
        (machine.final initial ops)
        (machine.final initial (ops.filter keep)) ∧
      (keepRecords keep (machine.trace initial ops)).map observe =
        (machine.trace initial (ops.filter keep)).map observe := by
  induction ops using List.reverseRecOn with
  | nil =>
      exact ⟨trivial, initially, rfl⟩
  | append_singleton earlier op inductionHypothesis =>
      rw [machine.trace_append] at allowed
      obtain ⟨admittedSoFar, relatedSoFar, observedAlike⟩ :=
        inductionHypothesis (prefixClosed _ _ allowed)
      cases keeps : keep op with
      | true =>
          obtain ⟨admittedNext, relatedNext, lastAlike⟩ :=
            kept _ _ _ op relatedSoFar allowed keeps
          rw [machine.trace_append, machine.final_append,
            List.filter_append]
          simp only [List.filter_cons, keeps, ↓reduceIte, List.filter_nil]
          rw [machine.final_append, machine.trace_append,
            machine.admitted_append]
          refine ⟨⟨admittedSoFar, admittedNext, trivial⟩, relatedNext, ?_⟩
          simpa [keepRecords, List.filter_append, List.filter_cons, keeps,
            lastAlike] using observedAlike
      | false =>
          have relatedNext :=
            erased _ _ _ op relatedSoFar allowed keeps
          rw [machine.trace_append, machine.final_append,
            List.filter_append]
          simp only [List.filter_cons, keeps, Bool.false_eq_true,
            ↓reduceIte, List.filter_nil, List.append_nil]
          refine ⟨admittedSoFar, relatedNext, ?_⟩
          simpa [keepRecords, List.filter_append, List.filter_cons, keeps]
            using observedAlike

end Erasure

section Refinement

variable {View Command Answer : Type}

/--
A machine seen as another one: an admitted step from a state that keeps the
invariant is an admitted step of the abstract machine between what the states
show.
-/
structure Refinement
    (machine : Machine State Op Reply)
    (abstract : Machine View Command Answer) where
  holds : State → Prop
  view : State → View
  command : Op → Command
  answer : Reply → Answer
  preserved : ∀ state op,
    holds state → machine.admits state op → holds (machine.step state op).1
  admitted : ∀ state op,
    holds state → machine.admits state op →
      abstract.admits (view state) (command op)
  commutes : ∀ state op,
    holds state → machine.admits state op →
      abstract.step (view state) (command op) =
        (view (machine.step state op).1, answer (machine.step state op).2)

namespace Refinement

variable {machine}
variable {abstract : Machine View Command Answer}
variable (refinement : Refinement machine abstract)
variable {state : State}
variable {ops : List Op}

/-- An admitted run shows as an admitted one. -/
theorem run_admitted
    (initially : refinement.holds state)
    (admitted : machine.Admitted state ops) :
    abstract.Admitted (refinement.view state)
      (ops.map refinement.command) := by
  induction ops generalizing state with
  | nil =>
      trivial
  | cons op rest inductionHypothesis =>
      refine ⟨refinement.admitted state op initially admitted.1, ?_⟩
      rw [refinement.commutes state op initially admitted.1]
      exact inductionHypothesis
        (refinement.preserved state op initially admitted.1) admitted.2

/-- A run of the machine is a run of the abstract one, reply by reply. -/
theorem run
    (initially : refinement.holds state)
    (admitted : machine.Admitted state ops) :
    abstract.final (refinement.view state) (ops.map refinement.command) =
        refinement.view (machine.final state ops) ∧
      (abstract.trace (refinement.view state)
          (ops.map refinement.command)).map Executed.reply =
        (machine.trace state ops).map fun executed =>
          refinement.answer executed.reply := by
  induction ops generalizing state with
  | nil =>
      exact ⟨rfl, rfl⟩
  | cons op rest inductionHypothesis =>
      have oneStep := refinement.commutes state op initially admitted.1
      obtain ⟨sameFinal, sameReplies⟩ :=
        inductionHypothesis
          (refinement.preserved state op initially admitted.1) admitted.2
      simp only [List.map_cons, final_cons, trace_cons, execute_reply,
        oneStep]
      exact ⟨sameFinal, congrArg _ sameReplies⟩

end Refinement

/--
A machine that drives another one: some of its operations are operations of
the other machine, and the rest leave alone what its states show of that.
-/
structure Projection
    (machine : Machine State Op Reply)
    (abstract : Machine View Command Answer) where
  view : State → View
  command? : Op → Option Command
  admitted : ∀ state op command,
    command? op = some command → machine.admits state op →
      abstract.admits (view state) command
  moved : ∀ state op command,
    command? op = some command →
      view (machine.step state op).1 =
        (abstract.step (view state) command).1
  unmoved : ∀ state op,
    command? op = none → view (machine.step state op).1 = view state

namespace Projection

variable {machine}
variable {abstract : Machine View Command Answer}
variable (projection : Projection machine abstract)
variable {state : State}
variable {ops : List Op}

/-- A run drives the other machine through the operations it makes there. -/
theorem run
    (admitted : machine.Admitted state ops) :
    abstract.Admitted (projection.view state)
        (ops.filterMap projection.command?) ∧
      abstract.final (projection.view state)
          (ops.filterMap projection.command?) =
        projection.view (machine.final state ops) := by
  induction ops generalizing state with
  | nil =>
      exact ⟨trivial, rfl⟩
  | cons op rest inductionHypothesis =>
      obtain ⟨restAdmitted, sameFinal⟩ := inductionHypothesis admitted.2
      cases isCommand : projection.command? op with
      | none =>
          rw [projection.unmoved state op isCommand] at restAdmitted sameFinal
          rw [List.filterMap_cons_none isCommand]
          exact ⟨restAdmitted, sameFinal⟩
      | some command =>
          rw [projection.moved state op command isCommand]
            at restAdmitted sameFinal
          rw [List.filterMap_cons_some isCommand]
          exact ⟨⟨projection.admitted state op command isCommand admitted.1,
            restAdmitted⟩, sameFinal⟩

end Projection

end Refinement

end Machine

/--
A property of runs that, after a run that has it, survives a further operation
exactly under some condition, holds of all prefixes of a run exactly if every
operation of the run meets the condition.
-/
theorem forall_prefix_iff
    {Op : Type}
    {ops : List Op}
    {holds : List Op → Prop}
    {keeps : List Op → Op → Prop}
    (initially : holds [])
    (exactly : ∀ earlier op later, ops = earlier ++ op :: later →
      holds earlier → (holds (earlier ++ [op]) ↔ keeps earlier op)) :
    (∀ earlier later, ops = earlier ++ later → holds earlier) ↔
      ∀ earlier op later, ops = earlier ++ op :: later → keeps earlier op := by
  constructor
  · intro always earlier op later shape
    have next : ops = (earlier ++ [op]) ++ later := by
      rw [shape, List.append_assoc]
      rfl
    exact (exactly earlier op later shape
      (always earlier (op :: later) shape)).mp (always _ later next)
  · intro kept earlier
    induction earlier using List.reverseRecOn with
    | nil =>
        intro later _
        exact initially
    | append_singleton earlier op inductionHypothesis =>
        intro later shape
        have here : ops = earlier ++ op :: later := by
          rw [shape, List.append_assoc]
          rfl
        exact (exactly earlier op later here
          (inductionHypothesis (op :: later) here)).mpr
            (kept earlier op later here)

end RunSemantics
