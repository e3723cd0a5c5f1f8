import Mathlib.Algebra.BigOperators.Group.Finset.Basic
import SafeSignalTrader.RunSemantics

/-!
# Runs split by key

A machine that keeps something for each of many keys, where every operation
names one key.  If an operation moves what is kept for its own key in a way
that depends on nothing else, then a run leaves for each key what the
operations on that key alone leave, and a measure of the state that moves in
such a way is the sum of what these contribute.
-/

namespace RunSemantics

open scoped BigOperators

variable {State Op Reply Key Number : Type}

/--
What a machine keeps for its keys: `agrees` compares, for one key, a state
after some operations with a state that the operations on that key led to.
The premise is on the operations and holds of all their initial parts.
-/
structure Splitting
    (machine : Machine State Op Reply)
    (Key : Type) where
  key : Op → Key
  premise : List Op → Prop
  agrees : List Op → Key → State → State → Prop
  initialPart : ∀ past op, premise (past ++ [op]) → premise past
  own : ∀ past op whole part,
    premise (past ++ [op]) → agrees past (key op) whole part →
      agrees (past ++ [op]) (key op) (machine.step whole op).1
        (machine.step part op).1
  foreign : ∀ past op other whole part,
    premise (past ++ [op]) → other ≠ key op → agrees past other whole part →
      agrees (past ++ [op]) other (machine.step whole op).1 part

/-- A measure that an operation moves as what agrees on its key does. -/
structure Splitting.Measuring
    {machine : Machine State Op Reply}
    (splitting : Splitting machine Key)
    (Number : Type)
    [AddCommGroup Number] where
  measure : State → Number
  contributes : ∀ past op whole part,
    splitting.premise (past ++ [op]) →
      splitting.agrees past (splitting.key op) whole part →
        measure (machine.step whole op).1 - measure whole =
          measure (machine.step part op).1 - measure part

namespace Splitting

variable [DecidableEq Key] [AddCommGroup Number]
variable {machine : Machine State Op Reply}
variable (splitting : Splitting machine Key)

/-- The operations on one key. -/
def part (key : Key) (ops : List Op) : List Op :=
  ops.filter fun op => splitting.key op = key

/-- An operation comes last in the part of its own key. -/
theorem part_own (earlier : List Op) (op : Op) :
    splitting.part (splitting.key op) (earlier ++ [op]) =
      splitting.part (splitting.key op) earlier ++ [op] := by
  simp [part]

/-- An operation does not come in the part of another key. -/
theorem part_foreign
    {key : Key}
    {op : Op}
    (other : key ≠ splitting.key op)
    (earlier : List Op) :
    splitting.part key (earlier ++ [op]) = splitting.part key earlier := by
  simp [part, Ne.symm other]

variable {initial : State}
variable {ops : List Op}
variable (initially : ∀ key, splitting.agrees [] key initial initial)

include initially

/-- A run leaves for each key what the operations on it leave. -/
theorem agrees_run
    (allowed : splitting.premise ops)
    (key : Key) :
    splitting.agrees ops key (machine.final initial ops)
      (machine.final initial (splitting.part key ops)) := by
  induction ops using List.reverseRecOn with
  | nil =>
      exact initially key
  | append_singleton earlier op inductionHypothesis =>
      have soFar :=
        inductionHypothesis (splitting.initialPart earlier op allowed)
      rw [machine.final_append]
      by_cases here : key = splitting.key op
      · subst here
        rw [part_own, machine.final_append]
        exact splitting.own earlier op _ _ allowed soFar
      · rw [part_foreign splitting here]
        exact splitting.foreign earlier op key _ _ allowed here soFar

/-- A measure moves by what the operations on each key contribute. -/
theorem measure_run
    (measuring : splitting.Measuring Number)
    (allowed : splitting.premise ops)
    {keys : Finset Key}
    (covers : ∀ op ∈ ops, splitting.key op ∈ keys) :
    measuring.measure (machine.final initial ops) -
        measuring.measure initial =
      ∑ key ∈ keys,
        (measuring.measure
            (machine.final initial (splitting.part key ops)) -
          measuring.measure initial) := by
  induction ops using List.reverseRecOn with
  | nil =>
      simp [part, Machine.final]
  | append_singleton earlier op inductionHypothesis =>
      have allowedSoFar := splitting.initialPart earlier op allowed
      have soFar :=
        inductionHypothesis allowedSoFar
          (fun past member => covers past (List.mem_append_left _ member))
      have listed : splitting.key op ∈ keys :=
        covers op (List.mem_append_right _ (List.mem_singleton_self op))
      have moved :=
        measuring.contributes earlier op _ _ allowed
          (splitting.agrees_run initially allowedSoFar (splitting.key op))
      -- Only the summand of the operation's own key moves.
      have others :
          ∑ key ∈ keys.erase (splitting.key op),
              (measuring.measure (machine.final initial
                (splitting.part key (earlier ++ [op]))) -
                measuring.measure initial) =
            ∑ key ∈ keys.erase (splitting.key op),
              (measuring.measure (machine.final initial
                (splitting.part key earlier)) -
                measuring.measure initial) := by
        apply Finset.sum_congr rfl
        intro key member
        rw [part_foreign splitting (Finset.ne_of_mem_erase member)]
      rw [← Finset.add_sum_erase keys _ listed] at soFar ⊢
      rw [others, part_own, machine.final_append, machine.final_append]
      calc
        measuring.measure (machine.final
              (machine.final initial earlier) [op]) -
            measuring.measure initial =
            (measuring.measure (machine.final
                (machine.final initial earlier) [op]) -
              measuring.measure (machine.final initial earlier)) +
              (measuring.measure (machine.final initial earlier) -
                measuring.measure initial) :=
          (sub_add_sub_cancel _ _ _).symm
        _ = _ := by
          rw [soFar, ← add_assoc]
          congr 1
          refine (congrArg (· + _) moved).trans ?_
          exact sub_add_sub_cancel _ _ _

end Splitting

end RunSemantics
