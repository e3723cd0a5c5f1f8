import SafeSignalTrader.MockRuns

/-!
# Moves of the stored orders

What one call can do to the order records: file a new one under the next order
id, and cancel one that is stored.  Nothing else writes a status, so the life
cycle of every order follows from which record a call cancels.
-/

namespace SafeSignalTrader

open RunSemantics

/-- The quantity an order has executed; a stop carries no such field. -/
def MockOrder.executedQty? (order : MockOrder) : Option Decimal :=
  match order.terms with
  | .order executedQty _ _ => some executedQty
  | .stop _ => none

/-- An order that is executed or canceled. -/
def MockOrder.Ended (order : MockOrder) : Prop :=
  order.status = .filled ∨ order.status = .canceled

/-- The record of an order after a call that cancels it. -/
def MockOp.cancel (op : MockOp) (order : MockOrder) : MockOrder :=
  match op with
  | .cancelOrder _ now =>
      { order with
        status := .canceled
        updateTime := now }
  | .cancelProtection _ now =>
      { order with
        status := .canceled
        updateTime := now }
  | _ => { order with status := .canceled }

namespace MockBinanceAdapter

/-- The order or stop a call files, if it files one. -/
def createdOrder? (adapter : MockBinanceAdapter) : MockOp → Option MockOrder
  | .placeOrder request now =>
      if adapter.clientToOrder.get? request.clientOrderId = none then
        some (adapter.orderOf request now)
      else
        none
  | .placeStop request now => some (adapter.stopOf request now)
  | .replaceStop replacement now =>
      some (adapter.stopOf
        (replacement.newStop
          (adapter.orders.get? replacement.existingOrderId)) now)
  | .cancelOrder _ _ => none
  | .cancelProtection _ _ => none
  | .setMarkPrice _ _ => none

/-- The order id a call cancels, whether or not it is stored. -/
def canceledId? (adapter : MockBinanceAdapter) : MockOp → Option String
  | .cancelOrder query _ => (adapter.resolve? query).map Prod.fst
  | .cancelProtection query _ => (adapter.resolve? query).map Prod.fst
  | .replaceStop replacement _ => some replacement.existingOrderId
  | .placeOrder _ _ => none
  | .placeStop _ _ => none
  | .setMarkPrice _ _ => none

/-- The record under an order id after a call. -/
def amended
    (adapter : MockBinanceAdapter)
    (op : MockOp)
    (orderId : String)
    (order : MockOrder) : MockOrder :=
  if adapter.canceledId? op = some orderId then op.cancel order else order

section Moves

variable {adapter : MockBinanceAdapter}
variable {op : MockOp}
variable {orderId : String}
variable {order : MockOrder}

/-- A new order is filed under the next order id. -/
theorem createdOrder?_orderId
    (created : adapter.createdOrder? op = some order) :
    order.orderId = adapter.nextOrderId := by
  cases op with
  | placeOrder request now =>
      simp only [createdOrder?] at created
      split at created
      · cases created
        rfl
      · cases created
  | placeStop request now =>
      cases created
      rfl
  | replaceStop replacement now =>
      cases created
      rfl
  | cancelOrder query now => cases created
  | cancelProtection query now => cases created
  | setMarkPrice symbol price => cases created

/-- A call leaves the records alone that it does not cancel. -/
theorem amended_eq_id (spared : adapter.canceledId? op ≠ some orderId) :
    adapter.amended op orderId = id := by
  funext order
  exact if_neg spared

/-- Marking the order a query resolves to. -/
theorem get?_markResolved
    (query : OrderQuery)
    (now : Int)
    (orderId : String) :
    (match adapter.resolve? query with
      | none => adapter
      | some (canceledId, _) =>
          adapter.markCanceled canceledId now).orders.get? orderId =
      (adapter.orders.get? orderId).map fun order =>
        if (adapter.resolve? query).map Prod.fst = some orderId then
          { order with
            status := .canceled
            updateTime := now }
        else
          order := by
  cases adapter.resolve? query with
  | none =>
      simp
  | some entry =>
      obtain ⟨canceledId, canceled⟩ := entry
      simp only [markCanceled, OrderedDict.get?_modify, Option.map_some,
        Option.some.injEq]
      by_cases same : orderId = canceledId
      · simp [same]
      · simp [same, Ne.symm same]

/-- What one call does to the record under an order id. -/
theorem get?_step (op : MockOp) (orderId : String) :
    (adapter.step op).1.orders.get? orderId =
      match adapter.createdOrder? op with
      | some order =>
          if orderId = adapter.nextOrderId then
            some order
          else
            (adapter.orders.get? orderId).map (adapter.amended op orderId)
      | none =>
          (adapter.orders.get? orderId).map (adapter.amended op orderId) := by
  cases op with
  | placeOrder request now =>
      have spared :
          adapter.canceledId? (.placeOrder request now) ≠ some orderId := by
        intro isCanceled
        cases isCanceled
      rw [amended_eq_id spared, Option.map_id, id]
      simp only [step, createdOrder?]
      cases known : adapter.clientToOrder.get? request.clientOrderId with
      | some knownId =>
          rw [placeOrder_known known]
          simp
      | none =>
          rw [placeOrder_fresh known]
          simp only [if_pos]
          split
          · rw [applyFill_orders]
            exact OrderedDict.get?_set _ _ _ _
          · exact OrderedDict.get?_set _ _ _ _
  | cancelOrder query now =>
      simp only [step, cancelOrder_fst, createdOrder?]
      exact get?_markResolved query now orderId
  | placeStop request now =>
      have spared :
          adapter.canceledId? (.placeStop request now) ≠ some orderId := by
        intro isCanceled
        cases isCanceled
      rw [amended_eq_id spared, Option.map_id, id]
      exact OrderedDict.get?_set _ _ _ _
  | replaceStop replacement now =>
      refine (OrderedDict.get?_set _ _ _ _).trans ?_
      have retired :
          (adapter.retire replacement.existingOrderId).orders.get? orderId =
            (adapter.orders.get? orderId).map
              (adapter.amended (.replaceStop replacement now) orderId) := by
        simp only [retire, OrderedDict.get?_modify]
        by_cases same : orderId = replacement.existingOrderId
        · rw [if_pos same]
          congr 1
          funext order
          simp [amended, canceledId?, same, MockOp.cancel]
        · rw [if_neg same]
          have spared :
              adapter.canceledId? (.replaceStop replacement now) ≠
                some orderId :=
            fun isCanceled => same (Option.some.inj isCanceled).symm
          rw [amended_eq_id spared, Option.map_id, id]
      rw [← retired]
      rfl
  | cancelProtection query now =>
      simp only [step, cancelProtection_fst, createdOrder?]
      refine Eq.trans ?_ (get?_markResolved query now orderId)
      cases adapter.resolve? query <;> rfl
  | setMarkPrice symbol price =>
      have spared :
          adapter.canceledId? (.setMarkPrice symbol price) ≠ some orderId := by
        intro isCanceled
        cases isCanceled
      rw [amended_eq_id spared, Option.map_id]
      rfl

/-- What one call does to the map of client ids. -/
theorem clientToOrder_step (op : MockOp) :
    (adapter.step op).1.clientToOrder =
      match adapter.createdOrder? op with
      | some order =>
          adapter.clientToOrder.set order.clientOrderId order.orderId
      | none => adapter.clientToOrder := by
  cases op with
  | placeOrder request now =>
      simp only [step, createdOrder?]
      cases known : adapter.clientToOrder.get? request.clientOrderId with
      | some knownId =>
          rw [placeOrder_known known]
          simp
      | none =>
          rw [placeOrder_fresh known]
          simp only [if_pos]
          split
          · exact applyFill_clientToOrder _ _ _ _ _ _
          · rfl
  | cancelOrder query now =>
      simp only [step, cancelOrder_fst, createdOrder?]
      cases adapter.resolve? query <;> rfl
  | placeStop request now => rfl
  | replaceStop replacement now => rfl
  | cancelProtection query now =>
      simp only [step, cancelProtection_fst, createdOrder?]
      cases adapter.resolve? query <;> rfl
  | setMarkPrice symbol price => rfl

/-- A stored order stays stored, canceled if the call cancels it. -/
theorem get?_step_of_stored
    (consistent : adapter.Consistent)
    (stored : adapter.orders.get? orderId = some order)
    (op : MockOp) :
    (adapter.step op).1.orders.get? orderId =
      some (adapter.amended op orderId order) := by
  rw [get?_step, stored]
  cases adapter.createdOrder? op with
  | none => rfl
  | some created => exact if_neg (consistent.ne_next stored)

/-- An order that was not stored is the one the call files. -/
theorem createdOrder?_of_get?_step
    (absent : adapter.orders.get? orderId = none)
    (found : (adapter.step op).1.orders.get? orderId = some order) :
    adapter.createdOrder? op = some order ∧
      orderId = adapter.nextOrderId := by
  rw [get?_step, absent] at found
  cases created : adapter.createdOrder? op with
  | none =>
      rw [created] at found
      cases found
  | some filed =>
      simp only [created] at found
      split at found
      · next isNext => exact ⟨found, isNext⟩
      · cases found

/-- The order a call files is stored under the next order id. -/
theorem get?_step_of_created (created : adapter.createdOrder? op = some order) :
    (adapter.step op).1.orders.get? order.orderId = some order := by
  rw [get?_step, created, createdOrder?_orderId created]
  exact if_pos rfl

theorem amended_orderId :
    (adapter.amended op orderId order).orderId = order.orderId := by
  unfold amended
  split
  · cases op <;> rfl
  · rfl

/-- No call changes the client id of a record or what it has executed. -/
theorem amended_clientOrderId :
    (adapter.amended op orderId order).clientOrderId =
      order.clientOrderId := by
  unfold amended
  split
  · cases op <;> rfl
  · rfl

theorem amended_executedQty? :
    (adapter.amended op orderId order).executedQty? =
      order.executedQty? := by
  unfold amended
  split
  · cases op <;> rfl
  · rfl

/-- A call writes one status, to the record it cancels. -/
theorem amended_status :
    (adapter.amended op orderId order).status =
      if adapter.canceledId? op = some orderId then
        .canceled
      else
        order.status := by
  unfold amended
  split
  · cases op <;> rfl
  · rfl

end Moves

end MockBinanceAdapter

end SafeSignalTrader
