import SafeSignalTrader.MockOrderMoves
import SafeSignalTrader.MockProtections

/-!
# Failed cancellations and replaced stops

`cancel_protection` deletes the entry of the symbol before it looks for the
order to cancel, so a call that raises may have changed the adapter.
`replace_stop` takes side and fate of the old stop from the order id it is
given, and never looks at the entry it replaces.
-/

namespace SafeSignalTrader

open PythonText
open RunSemantics

/-- The exception a call raises, if it raises. -/
def MockReply.raised? : MockReply → Option PyException
  | .order (.error exception) => some exception
  | .done (.error exception) => some exception
  | _ => none

namespace MockBinanceAdapter

section Cancellation

/-- If a call raises, the adapter is as before. -/
def FailsCleanly (adapter : MockBinanceAdapter) (op : MockOp) : Prop :=
  ∀ exception, (adapter.step op).2.raised? = some exception →
    (adapter.step op).1 = adapter

/-- A cancellation of a recorded protection by ids that lead to no order. -/
structure DropsProtection
    (adapter : MockBinanceAdapter)
    (query : OrderQuery) : Prop where
  named :
    (truthy query.orderId).isSome = true ∨
      (truthy query.clientOrderId).isSome = true
  unresolved : adapter.resolve? query = none
  recorded :
    (adapter.protections.get? (upperText query.symbol)).isSome = true

variable {adapter : MockBinanceAdapter}
variable {query : OrderQuery}

/-- `cancel_order` raises before it changes anything. -/
theorem cancelOrder_failsCleanly (now : Int) :
    adapter.FailsCleanly (.cancelOrder query now) := by
  intro exception raised
  simp only [step, cancelOrder_fst]
  cases resolved : adapter.resolve? query with
  | none => rfl
  | some entry =>
      simp only [step, cancelOrder, resolved] at raised
      cases raised

/-- `cancel_protection` raises exactly on ids that lead to no order. -/
theorem cancelProtection_raises_iff (now : Int) :
    ((adapter.step (.cancelProtection query now)).2.raised?).isSome = true ↔
      ((truthy query.orderId).isSome = true ∨
          (truthy query.clientOrderId).isSome = true) ∧
        adapter.resolve? query = none := by
  have sameOrders :
      (adapter.unprotect (upperText query.symbol)).resolve? query =
        adapter.resolve? query :=
    rfl
  simp only [step, cancelProtection]
  split
  · next named =>
      simp only [Bool.or_eq_true] at named
      rw [cancelOrder, sameOrders]
      cases adapter.resolve? query with
      | none => exact iff_of_true rfl ⟨named, rfl⟩
      | some entry =>
          refine iff_of_false Bool.false_ne_true ?_
          intro raises
          cases raises.2
  · next unnamed =>
      simp only [Bool.or_eq_true] at unnamed
      refine iff_of_false Bool.false_ne_true ?_
      intro raises
      exact unnamed raises.1

/-- Without a recorded protection there is no entry to delete. -/
theorem unprotect_eq_iff {symbol : String} :
    adapter.unprotect symbol = adapter ↔
      adapter.protections.get? symbol = none := by
  constructor
  · intro unchanged
    rw [← unchanged]
    exact (OrderedDict.get?_erase _ _ _).trans (if_pos rfl)
  · intro absent
    rw [unprotect, OrderedDict.erase_of_absent absent]

/--
Failed cancellations change nothing exactly if the ids of the query lead to an
order, or there are none, or the symbol has no recorded protection.
-/
theorem failedCancellation_iff
    (adapter : MockBinanceAdapter)
    (query : OrderQuery)
    (now : Int) :
    (adapter.FailsCleanly (.cancelOrder query now) ∧
        adapter.FailsCleanly (.cancelProtection query now)) ↔
      ¬ adapter.DropsProtection query := by
  constructor
  · intro clean drops
    have raises :=
      (cancelProtection_raises_iff now).mpr ⟨drops.named, drops.unresolved⟩
    obtain ⟨exception, raised⟩ := Option.isSome_iff_exists.mp raises
    have unchanged := clean.2 exception raised
    simp only [step, cancelProtection_fst, drops.unresolved] at unchanged
    have recorded := drops.recorded
    rw [unprotect_eq_iff.mp unchanged] at recorded
    cases recorded
  · intro keeps
    refine ⟨cancelOrder_failsCleanly now, ?_⟩
    intro exception raised
    obtain ⟨named, unresolved⟩ :=
      (@cancelProtection_raises_iff adapter query now).mp
        (by rw [raised]; rfl)
    simp only [step, cancelProtection_fst, unresolved]
    rw [unprotect_eq_iff]
    cases entry : adapter.protections.get? (upperText query.symbol) with
    | none => rfl
    | some orderId =>
        exact absurd ⟨named, unresolved, by rw [entry]; rfl⟩ keeps

/-- A protection canceled by an unknown order id is gone, and the stop stays. -/
theorem raising_cancel_drops_protection :
    ¬ ∀ adapter, MockReachable adapter →
      ∀ (query : OrderQuery) (now : Int),
        adapter.FailsCleanly (.cancelOrder query now) ∧
          adapter.FailsCleanly (.cancelProtection query now) := by
  intro clean
  let ops : List MockOp := [.placeStop (btcStop "stop") 0]
  have recorded :
      (mockMachine.final (.create 100) ops).protections.get? "BTCUSDT" =
        some "1" := by
    decide +kernel
  have dropped :
      ((mockMachine.final (.create 100) ops).step
          (.cancelProtection ⟨"BTCUSDT", some "7", none⟩ 1)).1.protections.get?
        "BTCUSDT" = none := by
    decide +kernel
  have raises :
      ((mockMachine.final (.create 100) ops).step
          (.cancelProtection ⟨"BTCUSDT", some "7", none⟩ 1)).2.raised?.isSome =
        true := by
    decide +kernel
  obtain ⟨exception, raised⟩ := Option.isSome_iff_exists.mp raises
  have unchanged :=
    (clean _ (MockReachable.of_run 100 ops)
      ⟨"BTCUSDT", some "7", none⟩ 1).2 exception raised
  rw [unchanged, recorded] at dropped
  cases dropped

end Cancellation

section Replacement

/-- The recorded protection of a symbol is a new stop of a side. -/
def ProtectedBy
    (adapter : MockBinanceAdapter)
    (symbol orderId : String)
    (side : OrderSide) : Prop :=
  adapter.protections.get? symbol = some orderId ∧
    ∃ order, adapter.orders.get? orderId = some order ∧
      order.isLiveStop = true ∧ order.side = side

/-- The protection of a symbol gave way to a new stop of the same side. -/
structure ReplacedInKind
    (before after : MockBinanceAdapter)
    (symbol previousId : String)
    (side : OrderSide) : Prop where
  protectedAfter : ∃ newId, after.ProtectedBy symbol newId side
  previousCanceled :
    ∃ previous, after.orders.get? previousId = some previous ∧
      previous.status = .canceled
  othersKept :
    ∀ orderId order, orderId ≠ previousId →
      before.orders.get? orderId = some order →
        ∃ later, after.orders.get? orderId = some later ∧
          later.status = order.status

variable {adapter : MockBinanceAdapter}
variable {replacement : StopReplacement}

/-- A replacement is never without effect. -/
theorem replaceStop_ne (now : Int) :
    (adapter.replaceStop replacement now).1 ≠ adapter := by
  intro unchanged
  have sameSeq := congrArg orderIdSeq unchanged
  exact Nat.succ_ne_self adapter.orderIdSeq sameSeq

/-- The stop a replacement files, with the side of the order it names. -/
theorem replaceStop_protects
    {existing : MockOrder}
    (stored :
      adapter.orders.get? replacement.existingOrderId = some existing)
    (now : Int) :
    (adapter.replaceStop replacement now).1.ProtectedBy
      (upperText replacement.symbol) adapter.nextOrderId existing.side := by
  have created :
      adapter.createdOrder? (.replaceStop replacement now) =
        some (adapter.stopOf (replacement.newStop (some existing)) now) := by
    rw [createdOrder?, stored]
  refine ⟨?_, _, get?_step_of_created created, rfl, rfl⟩
  rw [replaceStop_entries, if_pos rfl]

/--
A replacement keeps the direction of the protection, cancels the previous stop
and no other order exactly if it names the recorded protection of the symbol.
-/
theorem replaceStop_inKind_iff
    (adapter : MockBinanceAdapter)
    (reachable : MockReachable adapter)
    (replacement : StopReplacement)
    (now : Int)
    (previousId : String)
    (side : OrderSide)
    (wasProtected :
      adapter.ProtectedBy (upperText replacement.symbol) previousId side) :
    ((adapter.replaceStop replacement now).1 = adapter ∨
        ReplacedInKind adapter (adapter.replaceStop replacement now).1
          (upperText replacement.symbol) previousId side) ↔
      replacement.existingOrderId = previousId := by
  obtain ⟨_, previous, stored, isLive, isSide⟩ := wasProtected
  have moved {orderId : String} {order : MockOrder}
      (isStored : adapter.orders.get? orderId = some order) :
      (adapter.replaceStop replacement now).1.orders.get? orderId =
        some (adapter.amended (.replaceStop replacement now) orderId order) :=
    get?_step_of_stored reachable.consistent isStored
      (.replaceStop replacement now)
  constructor
  · intro outcome
    rcases outcome with unchanged | inKind
    · exact absurd unchanged (replaceStop_ne now)
    · obtain ⟨canceled, found, isCanceled⟩ := inKind.previousCanceled
      rw [moved stored, Option.some.injEq] at found
      rw [← found, amended_status] at isCanceled
      split at isCanceled
      · next named => exact Option.some.inj named
      · rw [MockOrder.status_of_isLiveStop isLive] at isCanceled
        cases isCanceled
  · intro named
    subst named
    refine Or.inr ⟨⟨adapter.nextOrderId, ?_⟩,
      ⟨_, moved stored, ?_⟩, ?_⟩
    · rw [← isSide]
      exact replaceStop_protects stored now
    · rw [amended_status]
      exact if_pos rfl
    · intro orderId order different isStored
      refine ⟨_, moved isStored, ?_⟩
      rw [amended_status]
      exact if_neg fun isNamed => different (Option.some.inj isNamed).symm

/-- The stop of a short position on `BTCUSDT`. -/
def shortStop : StopRequest :=
  { btcStop "stop" with
    side := .buy
    stopPrice := 110 }

/-- A new price for a stop on `BTCUSDT`. -/
def btcReplacement (existingOrderId : String) : StopReplacement where
  symbol := "BTCUSDT"
  existingOrderId := existingOrderId
  newStopPrice := 105
  quantity := 1
  clientOrderId := "moved"

/-- The adapter that holds the stop of a short position. -/
def shortProtected : MockBinanceAdapter :=
  mockMachine.final (.create 100) [.placeStop shortStop 0]

theorem shortProtected_protectedBy :
    shortProtected.ProtectedBy (upperText "BTCUSDT") "1" .buy := by
  have recorded :
      shortProtected.protections.get? (upperText "BTCUSDT") = some "1" := by
    decide +kernel
  have isStop :
      (shortProtected.orders.get? "1").map
          (fun order => (order.isLiveStop, order.side)) =
        some (true, .buy) := by
    decide +kernel
  obtain ⟨order, stored, shape⟩ := Option.map_eq_some_iff.mp isStop
  exact ⟨recorded, order, stored, congrArg Prod.fst shape,
    congrArg Prod.snd shape⟩

/-- The stop of a short position is moved under its own order id. -/
theorem replaceStop_inKind_named :
    (shortProtected.replaceStop (btcReplacement "1") 1).1 = shortProtected ∨
      ReplacedInKind shortProtected
        (shortProtected.replaceStop (btcReplacement "1") 1).1
        (upperText "BTCUSDT") "1" .buy :=
  (replaceStop_inKind_iff shortProtected (MockReachable.of_run 100 _)
    (btcReplacement "1") 1 "1" .buy shortProtected_protectedBy).mpr rfl

/-- A stale order id turns the stop of a short position into a sell stop. -/
theorem stale_replacement_turns_stop :
    ¬ ∀ adapter, MockReachable adapter →
      ∀ (replacement : StopReplacement) (now : Int) (previousId : String)
          (side : OrderSide),
        adapter.clientToOrder.get? replacement.clientOrderId = none →
        adapter.ProtectedBy (upperText replacement.symbol) previousId side →
          (adapter.replaceStop replacement now).1 = adapter ∨
            ReplacedInKind adapter (adapter.replaceStop replacement now).1
              (upperText replacement.symbol) previousId side := by
  intro keepsDirection
  have outcome :=
    keepsDirection shortProtected (MockReachable.of_run 100 _)
      (btcReplacement "7") 1 "1" .buy (by decide +kernel)
      shortProtected_protectedBy
  rcases outcome with unchanged | inKind
  · exact replaceStop_ne 1 unchanged
  · obtain ⟨newId, recorded, order, stored, _, isBuy⟩ :=
      inKind.protectedAfter
    have newRecorded :
        (shortProtected.replaceStop
            (btcReplacement "7") 1).1.protections.get?
          (upperText "BTCUSDT") = some "2" := by
      decide +kernel
    have newSide :
        ((shortProtected.replaceStop (btcReplacement "7") 1).1.orders.get?
            "2").map MockOrder.side = some .sell := by
      decide +kernel
    cases newRecorded.symm.trans recorded
    rw [stored, Option.map_some, isBuy] at newSide
    cases newSide

end Replacement

end MockBinanceAdapter

end SafeSignalTrader
