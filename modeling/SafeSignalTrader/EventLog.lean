import SafeSignalTrader.RunSemantics

/-!
# Machines that keep a log

A machine whose steps append to a log, and whose view moves by the events they
append and by nothing else.  Its view can then be rebuilt from the log alone,
and no step rewrites what was logged before.
-/

namespace EventLog

open RunSemantics

variable {State Op Reply Event View : Type}

/-- A log of a machine and the view that its events rebuild. -/
structure Logging
    (machine : Machine State Op Reply)
    (Event View : Type) where
  holds : State → Prop
  log : State → List Event
  view : State → View
  apply : View → Event → View
  preserved : ∀ state op,
    holds state → machine.admits state op → holds (machine.step state op).1
  appended : ∀ state op,
    holds state → machine.admits state op →
      ∃ events,
        log (machine.step state op).1 = log state ++ events ∧
          view (machine.step state op).1 = events.foldl apply (view state)

namespace Logging

variable {machine : Machine State Op Reply}
variable (logging : Logging machine Event View)
variable {state : State}
variable {ops : List Op}

/-- A run appends to the log, and the view moves by what it appends. -/
theorem appended_run
    (initially : logging.holds state)
    (admitted : machine.Admitted state ops) :
    ∃ events,
      logging.log (machine.final state ops) = logging.log state ++ events ∧
        logging.view (machine.final state ops) =
          events.foldl logging.apply (logging.view state) := by
  induction ops generalizing state with
  | nil =>
      exact ⟨[], (List.append_nil _).symm, rfl⟩
  | cons op rest inductionHypothesis =>
      obtain ⟨first, firstLog, firstView⟩ :=
        logging.appended state op initially admitted.1
      obtain ⟨later, laterLog, laterView⟩ :=
        inductionHypothesis
          (logging.preserved state op initially admitted.1) admitted.2
      refine ⟨first ++ later, ?_, ?_⟩
      · rw [Machine.final_cons, laterLog, firstLog, List.append_assoc]
      · rw [Machine.final_cons, laterView, firstView, List.foldl_append]

/-- No run rewrites what was logged before it. -/
theorem log_kept
    (initially : logging.holds state)
    (admitted : machine.Admitted state ops) :
    logging.log state <+: logging.log (machine.final state ops) := by
  obtain ⟨events, appendedLog, _⟩ :=
    logging.appended_run initially admitted
  exact ⟨events, appendedLog.symm⟩

/-- From an empty log on, the view is rebuilt from the log. -/
theorem replay
    (initially : logging.holds state)
    (unlogged : logging.log state = [])
    (admitted : machine.Admitted state ops) :
    logging.view (machine.final state ops) =
      (logging.log (machine.final state ops)).foldl logging.apply
        (logging.view state) := by
  obtain ⟨events, appendedLog, movedView⟩ :=
    logging.appended_run initially admitted
  rw [movedView, appendedLog, unlogged, List.nil_append]

end Logging

end EventLog
