import SafeSignalTrader.MockOrderMoves
import SafeSignalTrader.MockPositions

/-!
# The life cycle of an order

An order is filed as new or as filled, and a call may cancel it.  The adapter
does not look at the status of the record it cancels, so an executed order
keeps its status exactly as long as no call cancels it.
-/

namespace SafeSignalTrader

open RunSemantics

namespace MockBinanceAdapter

/-- No order leaves the store, and the only new status is a cancellation. -/
def OnlyCancelsNew (before after : MockBinanceAdapter) : Prop :=
  ∀ orderId order, before.orders.get? orderId = some order →
    ∃ later, after.orders.get? orderId = some later ∧
      (later.status = order.status ∨
        order.status = .new ∧ later.status = .canceled)

/-- Orders that are executed or canceled keep status and executed quantity. -/
def KeepsEnded (before after : MockBinanceAdapter) : Prop :=
  ∀ orderId order, before.orders.get? orderId = some order →
    order.Ended →
      ∃ later, after.orders.get? orderId = some later ∧
        later.status = order.status ∧
          later.executedQty? = order.executedQty?

/-- The order a call cancels, if it is stored, is not filled. -/
def SparesFilled (adapter : MockBinanceAdapter) (op : MockOp) : Prop :=
  ∀ orderId order, adapter.canceledId? op = some orderId →
    adapter.orders.get? orderId = some order →
      order.status ≠ .filled

variable {adapter : MockBinanceAdapter}

/-- A call makes no other status change exactly if it spares filled orders. -/
theorem onlyCancelsNew_step_iff
    (consistent : adapter.Consistent)
    (op : MockOp) :
    OnlyCancelsNew adapter (adapter.step op).1 ↔ adapter.SparesFilled op := by
  constructor
  · intro lawful orderId order isCanceled stored filled
    obtain ⟨later, found, change⟩ := lawful orderId order stored
    rw [get?_step_of_stored consistent stored, Option.some.injEq] at found
    rw [← found, amended_status, if_pos isCanceled, filled] at change
    rcases change with kept | ⟨isNew, _⟩
    · cases kept
    · cases isNew
  · intro spares orderId order stored
    refine ⟨_, get?_step_of_stored consistent stored op, ?_⟩
    rw [amended_status]
    split
    · next isCanceled =>
        have notFilled := spares orderId order isCanceled stored
        cases status : order.status with
        | new => exact Or.inr ⟨rfl, rfl⟩
        | filled => exact absurd status notFilled
        | canceled => exact Or.inl rfl
    · exact Or.inl rfl

/-- A call that spares filled orders keeps the ended ones. -/
theorem keepsEnded_step
    (consistent : adapter.Consistent)
    {op : MockOp}
    (spares : adapter.SparesFilled op) :
    KeepsEnded adapter (adapter.step op).1 := by
  intro orderId order stored ended
  refine ⟨_, get?_step_of_stored consistent stored op, ?_,
    amended_executedQty?⟩
  rw [amended_status]
  split
  · next isCanceled =>
      rcases ended with filled | canceled
      · exact absurd filled (spares orderId order isCanceled stored)
      · exact canceled.symm
  · rfl

theorem KeepsEnded.refl (adapter : MockBinanceAdapter) :
    KeepsEnded adapter adapter :=
  fun _ order stored _ => ⟨order, stored, rfl, rfl⟩

theorem KeepsEnded.trans
    {before between after : MockBinanceAdapter}
    (first : KeepsEnded before between)
    (second : KeepsEnded between after) :
    KeepsEnded before after := by
  intro orderId order stored ended
  obtain ⟨middle, found, sameStatus, sameQty⟩ :=
    first orderId order stored ended
  have middleEnded : middle.Ended := by
    unfold MockOrder.Ended
    rw [sameStatus]
    exact ended
  obtain ⟨last, lastFound, lastStatus, lastQty⟩ :=
    second orderId middle found middleEnded
  exact ⟨last, lastFound, lastStatus.trans sameStatus, lastQty.trans sameQty⟩

/-- A run that spares filled orders keeps the ended ones. -/
theorem keepsEnded_final
    (consistent : adapter.Consistent)
    {ops : List MockOp}
    (spares : ∀ executed ∈ mockMachine.trace adapter ops,
      executed.before.SparesFilled executed.op) :
    KeepsEnded adapter (mockMachine.final adapter ops) := by
  induction ops generalizing adapter with
  | nil =>
      exact KeepsEnded.refl adapter
  | cons op rest inductionHypothesis =>
      have first :=
        keepsEnded_step consistent (spares _ List.mem_cons_self)
      refine first.trans (inductionHypothesis (consistent.step op) ?_)
      intro executed member
      exact spares executed (List.mem_cons_of_mem _ member)

end MockBinanceAdapter

/--
The order life cycle.  In a run every status change is one from new to
canceled, and ended orders keep status and executed quantity in every later
state, exactly if no call cancels an order that is filled at that moment.
-/
theorem orderLifeCycle_iff
    (defaultMark : Decimal)
    (ops : List MockOp) :
    ((∀ executed ∈ mockMachine.trace (.create defaultMark) ops,
          MockBinanceAdapter.OnlyCancelsNew executed.before
            executed.after) ∧
        ∀ earlier middle later, ops = earlier ++ middle ++ later →
          MockBinanceAdapter.KeepsEnded
            (mockMachine.final (.create defaultMark) earlier)
            (mockMachine.final (.create defaultMark)
              (earlier ++ middle))) ↔
      ∀ executed ∈ mockMachine.trace (.create defaultMark) ops,
        executed.before.SparesFilled executed.op := by
  have stepIff :
      ∀ executed ∈ mockMachine.trace (.create defaultMark) ops,
        (MockBinanceAdapter.OnlyCancelsNew executed.before executed.after ↔
          executed.before.SparesFilled executed.op) := by
    intro executed member
    obtain ⟨earlier, op, _, _, made⟩ :=
      mockMachine.exists_split_of_mem_trace member
    rw [made]
    exact MockBinanceAdapter.onlyCancelsNew_step_iff
      (MockReachable.of_run defaultMark earlier).consistent op
  constructor
  · intro lawful executed member
    exact (stepIff executed member).mp (lawful.1 executed member)
  · intro spares
    refine ⟨fun executed member =>
      (stepIff executed member).mpr (spares executed member), ?_⟩
    intro earlier middle later shape
    rw [mockMachine.final_append]
    apply MockBinanceAdapter.keepsEnded_final
      (MockReachable.of_run defaultMark earlier).consistent
    intro executed member
    apply spares executed
    rw [shape, List.append_assoc, mockMachine.trace_append,
      mockMachine.trace_append]
    exact List.mem_append_right _ (List.mem_append_left _ member)

/-- A filled entry that is canceled by its order id is recorded as canceled. -/
theorem filled_order_canceled :
    ¬ ∀ (defaultMark : Decimal) (ops : List MockOp),
      (∀ executed ∈ mockMachine.trace (.create defaultMark) ops,
          MockBinanceAdapter.OnlyCancelsNew executed.before
            executed.after) ∧
        ∀ earlier middle later, ops = earlier ++ middle ++ later →
          MockBinanceAdapter.KeepsEnded
            (mockMachine.final (.create defaultMark) earlier)
            (mockMachine.final (.create defaultMark)
              (earlier ++ middle)) := by
  intro lawful
  let entry : List MockOp := [.placeOrder (btcOrder .buy 1 "entry" false) 0]
  let cancel : List MockOp := [.cancelOrder ⟨"BTCUSDT", some "1", none⟩ 1]
  have isFilled :
      ((mockMachine.final (.create 100) entry).orders.get? "1").map
          MockOrder.status = some .filled := by
    decide +kernel
  have isCanceled :
      ((mockMachine.final (.create 100) (entry ++ cancel)).orders.get?
          "1").map MockOrder.status = some .canceled := by
    decide +kernel
  obtain ⟨order, stored, filled⟩ := Option.map_eq_some_iff.mp isFilled
  obtain ⟨later, found, sameStatus, _⟩ :=
    (lawful 100 (entry ++ cancel)).2 entry cancel []
      (List.append_nil _).symm "1" order stored (Or.inl filled)
  rw [found, Option.map_some, sameStatus, filled] at isCanceled
  cases isCanceled

end SafeSignalTrader
