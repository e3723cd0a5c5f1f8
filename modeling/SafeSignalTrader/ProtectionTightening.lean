import SafeSignalTrader.ExtremalFold
import SafeSignalTrader.ProtectionPlanner

/-!
# Stops only tighten

A position's stop is threaded through take-profit moves and proposals in any
order.  Each call either offers a stop or none, and keeps the more protective
of the offer and the current stop.  So a run is a fold to an extreme value in
the order of protection: the usual order for a long, its dual for a short.
-/

namespace SafeSignalTrader

open ExtremalFold

/-- A call of the protection planner on an open position. -/
inductive StopCall where
  | afterTp
      (entryPrice : Decimal) (hitTp : TakeProfitLevel)
      (snapshot : EffectiveConfigSnapshot) (previousTpPrice : Option Decimal)
  | neverWorsen (proposed : Decimal)

namespace StopCall

/-- The stop a call offers, if any. -/
def offer : StopCall → Option Decimal
  | .afterTp entryPrice _ snapshot previousTpPrice =>
      match snapshot.slMode with
      | .breakEven => some entryPrice
      | .lockProfitUsdt => some entryPrice
      | .moveToPreviousTp => previousTpPrice
      | .none => none
      | .fixedLossUsdt => none
      | .custom => none
  | .neverWorsen proposed => some proposed

/-- The next stop: `safer_stop` of the plan, or the clamped proposal. -/
def next (side : Side) (current : Decimal) : StopCall → Decimal
  | .afterTp entryPrice hitTp snapshot previousTpPrice =>
      ((ProtectionPlanner.afterTp side current entryPrice hitTp snapshot
        previousTpPrice).saferStop).getD current
  | .neverWorsen proposed =>
      ProtectionPlanner.neverWorsen side current proposed

/-- Thread the stop through a list of calls. -/
def thread (side : Side) (initial : Decimal) (calls : List StopCall) :
    Decimal :=
  calls.foldl (next side) initial

/-- All stops a list of calls offers. -/
def offers (calls : List StopCall) : List Decimal :=
  calls.filterMap offer

/-- A call clamps what it offers and keeps the stop if it offers nothing. -/
theorem next_eq
    (side : Side)
    (current : Decimal)
    (call : StopCall) :
    next side current call =
      match call.offer with
      | some offered => ProtectionPlanner.neverWorsen side current offered
      | none => current := by
  have kept :
      ProtectionPlanner.neverWorsen side current current = current := by
    simp [ProtectionPlanner.neverWorsen]
  cases call with
  | neverWorsen proposed =>
      rfl
  | afterTp entryPrice hitTp snapshot previousTpPrice =>
      simp only [next, ProtectionPlanner.afterTp_saferStop, Option.getD_some,
        offer]
      cases snapshot.slMode with
      | breakEven => rfl
      | lockProfitUsdt => rfl
      | none => exact kept
      | fixedLossUsdt => exact kept
      | custom => exact kept
      | moveToPreviousTp =>
          cases previousTpPrice with
          | none => exact kept
          | some price => rfl

end StopCall

/-- The order of protection of a side: the greater stop protects better. -/
@[reducible] def protectionOrder : Side → LinearOrder Decimal
  | .long => inferInstance
  | .short => inferInstanceAs (LinearOrder Decimalᵒᵈ)

/-- A stop of a set that protects at least as well as all others. -/
def IsMostProtective (side : Side) (stops : Set Decimal) (stop : Decimal) :
    Prop :=
  match side with
  | .long => IsGreatest stops stop
  | .short => IsLeast stops stop

theorem isMostProtective_iff
    {side : Side}
    {stops : Set Decimal}
    {stop : Decimal} :
    IsMostProtective side stops stop ↔
      @IsGreatest Decimal (protectionOrder side).toLE stops stop := by
  cases side with
  | long => exact Iff.rfl
  | short => exact Iff.rfl

/-- A candidate is safer exactly if it is above in the order of protection. -/
theorem isSafer_iff
    {side : Side}
    {current candidate : Decimal} :
    ProtectionPlanner.isSafer side current candidate = true ↔
      (protectionOrder side).le current candidate := by
  cases side with
  | long => exact decide_eq_true_iff
  | short => exact decide_eq_true_iff

/-- A clamped proposal is the maximum in the order of protection. -/
theorem neverWorsen_eq_max
    (side : Side)
    (current proposed : Decimal) :
    ProtectionPlanner.neverWorsen side current proposed =
      (protectionOrder side).max current proposed := by
  unfold ProtectionPlanner.neverWorsen
  split
  · next safer =>
      exact (@max_eq_right Decimal (protectionOrder side) _ _
        (isSafer_iff.mp safer)).symm
  · next worse =>
      exact (@max_eq_left Decimal (protectionOrder side) _ _
        (@le_of_not_ge Decimal (protectionOrder side) _ _ fun safer =>
          worse (isSafer_iff.mpr safer))).symm

namespace StopCall

/-- A threaded run is a fold to the extreme of the offers. -/
theorem thread_eq_ratchet
    (side : Side)
    (initial : Decimal)
    (calls : List StopCall) :
    thread side initial calls =
      @ratchet Decimal (protectionOrder side) initial (offers calls) := by
  induction calls generalizing initial with
  | nil =>
      rfl
  | cons call rest inductionHypothesis =>
      have stepped :
          thread side initial (call :: rest) =
            thread side (next side initial call) rest :=
        rfl
      rw [stepped, inductionHypothesis, next_eq]
      cases offered : call.offer with
      | none =>
          simp only [offers, List.filterMap_cons, offered]
      | some stop =>
          simp only [offers, List.filterMap_cons, offered, ratchet_cons,
            neverWorsen_eq_max]

/-- The threaded stop is the most protective of all that were available. -/
theorem thread_isMostProtective
    (side : Side)
    (initial : Decimal)
    (calls : List StopCall) :
    IsMostProtective side {stop | stop = initial ∨ stop ∈ offers calls}
      (thread side initial calls) := by
  rw [isMostProtective_iff, thread_eq_ratchet]
  exact @isGreatest_ratchet Decimal (protectionOrder side) initial
    (offers calls)

/-- More calls never take protection away. -/
theorem thread_isSafer
    (side : Side)
    (initial : Decimal)
    (earlier later : List StopCall) :
    ProtectionPlanner.isSafer side (thread side initial earlier)
      (thread side initial (earlier ++ later)) = true := by
  have continued :
      thread side initial (earlier ++ later) =
        thread side (thread side initial earlier) later :=
    List.foldl_append
  rw [continued, isSafer_iff, thread_eq_ratchet side _ later]
  exact @le_ratchet Decimal (protectionOrder side) _ (offers later)

/-- The threaded stop depends on the set of calls only. -/
theorem thread_congr
    {first second : List StopCall}
    (side : Side)
    (initial : Decimal)
    (sameCalls : ∀ call, call ∈ first ↔ call ∈ second) :
    thread side initial first = thread side initial second := by
  rw [thread_eq_ratchet, thread_eq_ratchet]
  apply @ratchet_congr Decimal (protectionOrder side)
  intro offer
  simp only [offers, List.mem_filterMap, sameCalls]

end StopCall

/--
Stops only tighten.  A run of calls ends with the most protective of the
initial stop and the offered ones; it never moves the stop back, repeating a
call anywhere changes nothing, and the order of the calls does not matter.
-/
theorem stopsOnlyTighten
    (side : Side)
    (initial : Decimal)
    (calls : List StopCall) :
    IsMostProtective side
        {stop | stop = initial ∨ stop ∈ StopCall.offers calls}
        (StopCall.thread side initial calls) ∧
      (∀ earlier later, calls = earlier ++ later →
        ProtectionPlanner.isSafer side
          (StopCall.thread side initial earlier)
          (StopCall.thread side initial calls) = true) ∧
      (∀ earlier later call, calls = earlier ++ later → call ∈ calls →
        StopCall.thread side initial (earlier ++ call :: later) =
          StopCall.thread side initial calls) ∧
      ∀ permuted, calls.Perm permuted →
        StopCall.thread side initial permuted =
          StopCall.thread side initial calls := by
  refine ⟨StopCall.thread_isMostProtective side initial calls, ?_, ?_, ?_⟩
  · intro earlier later shape
    rw [shape]
    exact StopCall.thread_isSafer side initial earlier later
  · intro earlier later call shape member
    apply StopCall.thread_congr
    intro other
    rw [List.mem_append, List.mem_cons, or_left_comm, ← List.mem_append,
      ← shape, or_iff_right_iff_imp]
    intro isCall
    rw [isCall]
    exact member
  · intro permuted permutation
    apply StopCall.thread_congr
    intro call
    exact permutation.mem_iff.symm

end SafeSignalTrader
