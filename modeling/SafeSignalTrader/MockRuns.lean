import SafeSignalTrader.MockBinance
import SafeSignalTrader.RunSemantics

/-!
# Runs of the exchange adapter

The public operations of the adapter as a deterministic machine, what each of
them leaves alone, and the invariant of its stores: order ids are numbered in
sequence, every client id leads to a stored order, and orders and positions
carry upper-case symbols.
-/

namespace SafeSignalTrader

open PythonText
open RunSemantics

/-- One call of the adapter, with the clock reading it takes. -/
inductive MockOp where
  | placeOrder (request : OrderRequest) (now : Int)
  | cancelOrder (query : OrderQuery) (now : Int)
  | placeStop (request : StopRequest) (now : Int)
  | replaceStop (replacement : StopReplacement) (now : Int)
  | cancelProtection (query : OrderQuery) (now : Int)
  | setMarkPrice (symbol : String) (price : Decimal)

/-- What a call returns or raises. -/
inductive MockReply where
  | order (result : Except PyException MockOrder)
  | done (result : Except PyException Unit)

namespace MockOp

/-- The symbol argument of a call. -/
def symbol : MockOp → String
  | .placeOrder request _ => request.symbol
  | .cancelOrder query _ => query.symbol
  | .placeStop request _ => request.symbol
  | .replaceStop replacement _ => replacement.symbol
  | .cancelProtection query _ => query.symbol
  | .setMarkPrice symbol _ => symbol

/-- The client id an operation submits an order or a stop under. -/
def submittedId? : MockOp → Option String
  | .placeOrder request _ => some request.clientOrderId
  | .placeStop request _ => some request.clientOrderId
  | .replaceStop replacement _ => some replacement.clientOrderId
  | .cancelOrder _ _ => none
  | .cancelProtection _ _ => none
  | .setMarkPrice _ _ => none

end MockOp

namespace MockBinanceAdapter

/-- Perform one call. -/
def step
    (adapter : MockBinanceAdapter) :
    MockOp → MockBinanceAdapter × MockReply
  | .placeOrder request now =>
      ((adapter.placeOrder request now).1,
        .order (adapter.placeOrder request now).2)
  | .cancelOrder query now =>
      ((adapter.cancelOrder query now).1,
        .order (adapter.cancelOrder query now).2)
  | .placeStop request now =>
      ((adapter.placeStop request now).1,
        .order (.ok (adapter.placeStop request now).2))
  | .replaceStop replacement now =>
      ((adapter.replaceStop replacement now).1,
        .order (.ok (adapter.replaceStop replacement now).2))
  | .cancelProtection query now =>
      ((adapter.cancelProtection query now).1,
        .done (adapter.cancelProtection query now).2)
  | .setMarkPrice symbol price =>
      (adapter.setMarkPrice symbol price, .done (.ok ()))

end MockBinanceAdapter

/-- The adapter as a machine; its environment supplies only clock readings. -/
def mockMachine : Machine MockBinanceAdapter MockOp MockReply where
  step := MockBinanceAdapter.step
  admits := fun _ _ => True

@[simp] theorem mockMachine_step (adapter : MockBinanceAdapter) (op : MockOp) :
    mockMachine.step adapter op = adapter.step op :=
  rfl

/-- A state some calls lead to from a fresh adapter. -/
def MockReachable (adapter : MockBinanceAdapter) : Prop :=
  ∃ defaultMark, mockMachine.Reachable (.create defaultMark) adapter

namespace MockBinanceAdapter

section Frame

variable (adapter : MockBinanceAdapter)
variable (symbol : String)
variable (side : OrderSide)
variable (quantity price : Decimal)
variable (reduceOnly : Bool)

/-- A fill touches nothing but the positions and the realized result. -/
theorem applyFill_frame :
    adapter.applyFill symbol side quantity price reduceOnly =
      { adapter with
        positions :=
          (adapter.applyFill symbol side quantity price reduceOnly).positions
        realizedPnl :=
          (adapter.applyFill symbol side quantity price
            reduceOnly).realizedPnl } := by
  unfold applyFill
  cases adapter.positions.get? symbol with
  | none =>
      cases reduceOnly <;> rfl
  | some position =>
      dsimp only
      split <;> rfl

@[simp] theorem applyFill_orders :
    (adapter.applyFill symbol side quantity price reduceOnly).orders =
      adapter.orders := by
  rw [applyFill_frame]

@[simp] theorem applyFill_orderIdSeq :
    (adapter.applyFill symbol side quantity price reduceOnly).orderIdSeq =
      adapter.orderIdSeq := by
  rw [applyFill_frame]

@[simp] theorem applyFill_clientToOrder :
    (adapter.applyFill symbol side quantity price
        reduceOnly).clientToOrder =
      adapter.clientToOrder := by
  rw [applyFill_frame]

@[simp] theorem applyFill_protections :
    (adapter.applyFill symbol side quantity price reduceOnly).protections =
      adapter.protections := by
  rw [applyFill_frame]

@[simp] theorem applyFill_markPrices :
    (adapter.applyFill symbol side quantity price reduceOnly).markPrices =
      adapter.markPrices := by
  rw [applyFill_frame]

@[simp] theorem applyFill_defaultMark :
    (adapter.applyFill symbol side quantity price reduceOnly).defaultMark =
      adapter.defaultMark := by
  rw [applyFill_frame]

/-- A fill touches the position of its own symbol only. -/
theorem applyFill_position_other
    {other : String}
    (different : other ≠ symbol) :
    (adapter.applyFill symbol side quantity price
        reduceOnly).positions.get? other =
      adapter.positions.get? other := by
  unfold applyFill
  cases adapter.positions.get? symbol with
  | none =>
      cases reduceOnly with
      | true => rfl
      | false => exact (OrderedDict.get?_set ..).trans (if_neg different)
  | some position =>
      dsimp only
      split
      · exact (OrderedDict.get?_erase ..).trans (if_neg different)
      · exact (OrderedDict.get?_modify ..).trans (if_neg different)

end Frame

section Cases

variable {adapter : MockBinanceAdapter}
variable {request : OrderRequest}

/-- A client id that is known changes nothing. -/
theorem placeOrder_known
    {orderId : String}
    (known :
      adapter.clientToOrder.get? request.clientOrderId = some orderId)
    (now : Int) :
    (adapter.placeOrder request now).1 = adapter := by
  simp only [placeOrder, known]
  cases adapter.orders.get? orderId <;> rfl

/-- A fresh client id records an order and fills it if it is a market order. -/
theorem placeOrder_fresh
    (fresh : adapter.clientToOrder.get? request.clientOrderId = none)
    (now : Int) :
    adapter.placeOrder request now =
      (if request.isMarket then
        (adapter.record (adapter.orderOf request now)).applyFill
          (upperText request.symbol) request.side request.quantity
          (adapter.fillPrice request) request.reduceOnly
      else
        adapter.record (adapter.orderOf request now),
        .ok (adapter.orderOf request now)) := by
  simp only [placeOrder, fresh]
  cases request.isMarket <;> rfl

/-- A query that resolves finds a stored order. -/
theorem resolve?_eq_some_iff
    {query : OrderQuery}
    {orderId : String}
    {order : MockOrder} :
    adapter.resolve? query = some (orderId, order) ↔
      adapter.resolveId query = some orderId ∧
        adapter.orders.get? orderId = some order := by
  unfold resolve?
  constructor
  · intro resolved
    obtain ⟨found, isFound, located⟩ := Option.bind_eq_some_iff.mp resolved
    obtain ⟨stored, isStored, samePair⟩ := Option.map_eq_some_iff.mp located
    cases samePair
    exact ⟨isFound, isStored⟩
  · intro resolved
    rw [resolved.1, Option.bind_some, resolved.2]
    rfl

/-- Canceling an order marks it, if the query resolves. -/
theorem cancelOrder_fst
    (query : OrderQuery)
    (now : Int) :
    (adapter.cancelOrder query now).1 =
      match adapter.resolve? query with
      | none => adapter
      | some (orderId, _) => adapter.markCanceled orderId now := by
  unfold cancelOrder
  cases adapter.resolve? query <;> rfl

/-- Without an id there is nothing to resolve. -/
theorem resolve?_eq_none_of_no_id
    {query : OrderQuery}
    (noId :
      ((truthy query.orderId).isSome ||
        (truthy query.clientOrderId).isSome) = false) :
    adapter.resolve? query = none := by
  simp only [Bool.or_eq_false_iff, Option.isSome_eq_false_iff,
    Option.isNone_iff_eq_none] at noId
  rw [resolve?, resolveId, noId.1, noId.2]
  rfl

/-- Canceling a protection deletes its entry and marks the named order. -/
theorem cancelProtection_fst
    (query : OrderQuery)
    (now : Int) :
    (adapter.cancelProtection query now).1 =
      match adapter.resolve? query with
      | none => adapter.unprotect (upperText query.symbol)
      | some (orderId, _) =>
          (adapter.unprotect (upperText query.symbol)).markCanceled
            orderId now := by
  have sameOrders :
      (adapter.unprotect (upperText query.symbol)).resolve? query =
        adapter.resolve? query :=
    rfl
  unfold cancelProtection
  split
  · rw [← sameOrders]
    exact cancelOrder_fst query now
  · next noId =>
      rw [resolve?_eq_none_of_no_id (by simpa using noId)]

end Cases

/-- The invariant of the stores. -/
structure Consistent (adapter : MockBinanceAdapter) : Prop where
  numbered :
    ∀ {orderId order},
      adapter.orders.get? orderId = some order →
        ∃ number < adapter.orderIdSeq, orderId = toString number
  upperSymbol :
    ∀ {orderId order},
      adapter.orders.get? orderId = some order →
        ∃ symbol, order.symbol = upperText symbol
  mappedStored :
    ∀ {clientOrderId orderId},
      adapter.clientToOrder.get? clientOrderId = some orderId →
        (adapter.orders.get? orderId).isSome = true
  positionSymbol :
    ∀ {symbol position},
      adapter.positions.get? symbol = some position →
        position.symbol = symbol
  entryStored :
    ∀ {symbol orderId},
      adapter.protections.get? symbol = some orderId →
        ∃ order,
          adapter.orders.get? orderId = some order ∧ order.symbol = symbol

namespace Consistent

variable {adapter : MockBinanceAdapter}

/-- A fresh adapter is consistent. -/
theorem create (defaultMark : Decimal) : (create defaultMark).Consistent where
  numbered := by
    intro orderId order stored
    cases stored
  upperSymbol := by
    intro orderId order stored
    cases stored
  mappedStored := by
    intro clientOrderId orderId mapped
    cases mapped
  positionSymbol := by
    intro symbol position stored
    cases stored
  entryStored := by
    intro symbol orderId entry
    cases entry

/-- The next order id is not in use. -/
theorem fresh
    (consistent : adapter.Consistent) :
    adapter.orders.get? adapter.nextOrderId = none := by
  cases stored : adapter.orders.get? adapter.nextOrderId with
  | none =>
      rfl
  | some order =>
      obtain ⟨number, below, sameId⟩ := consistent.numbered stored
      exact absurd (toString_injective sameId) (Nat.ne_of_gt below)

/-- A stored order does not have the next order id. -/
theorem ne_next
    (consistent : adapter.Consistent)
    {orderId : String}
    {order : MockOrder}
    (stored : adapter.orders.get? orderId = some order) :
    orderId ≠ adapter.nextOrderId := by
  intro same
  rw [same, consistent.fresh] at stored
  cases stored

/-- Recording a new order keeps the stores consistent. -/
theorem record
    (consistent : adapter.Consistent)
    {order : MockOrder}
    (nextId : order.orderId = adapter.nextOrderId)
    (upper : ∃ symbol, order.symbol = upperText symbol) :
    (adapter.record order).Consistent where
  numbered := by
    intro orderId stored found
    simp only [MockBinanceAdapter.record, OrderedDict.get?_set] at found ⊢
    split at found
    · next isNew =>
        exact ⟨adapter.orderIdSeq, Nat.lt_succ_self _, isNew.trans nextId⟩
    · obtain ⟨number, below, sameId⟩ := consistent.numbered found
      exact ⟨number, Nat.lt_succ_of_lt below, sameId⟩
  upperSymbol := by
    intro orderId stored found
    simp only [MockBinanceAdapter.record, OrderedDict.get?_set] at found
    split at found
    · cases found
      exact upper
    · exact consistent.upperSymbol found
  mappedStored := by
    intro clientOrderId orderId mapped
    simp only [MockBinanceAdapter.record, OrderedDict.get?_set] at mapped ⊢
    split
    · rfl
    · next different =>
        split at mapped
        · cases mapped
          exact absurd rfl different
        · exact consistent.mappedStored mapped
  positionSymbol := consistent.positionSymbol
  entryStored := by
    intro symbol orderId entry
    obtain ⟨stored, isStored, onSymbol⟩ := consistent.entryStored entry
    refine ⟨stored, ?_, onSymbol⟩
    simp only [MockBinanceAdapter.record, OrderedDict.get?_set, nextId,
      if_neg (consistent.ne_next isStored)]
    exact isStored

/-- Mutating an order without its symbol keeps the stores consistent. -/
theorem amend
    (consistent : adapter.Consistent)
    (orderId : String)
    {change : MockOrder → MockOrder}
    (keepsSymbol : ∀ order, (change order).symbol = order.symbol) :
    ({ adapter with
        orders := adapter.orders.modify orderId change } :
      MockBinanceAdapter).Consistent where
  numbered := by
    intro other order found
    simp only [OrderedDict.get?_modify] at found
    split at found
    · obtain ⟨stored, isStored, _⟩ := Option.map_eq_some_iff.mp found
      exact consistent.numbered isStored
    · exact consistent.numbered found
  upperSymbol := by
    intro other order found
    simp only [OrderedDict.get?_modify] at found
    split at found
    · obtain ⟨stored, isStored, changed⟩ := Option.map_eq_some_iff.mp found
      rw [← changed, keepsSymbol]
      exact consistent.upperSymbol isStored
    · exact consistent.upperSymbol found
  mappedStored := by
    intro clientOrderId other mapped
    have isStored := consistent.mappedStored mapped
    simp only [OrderedDict.get?_modify]
    split
    · rw [Option.isSome_map]
      exact isStored
    · exact isStored
  positionSymbol := consistent.positionSymbol
  entryStored := by
    intro symbol other entry
    obtain ⟨stored, isStored, onSymbol⟩ := consistent.entryStored entry
    simp only [OrderedDict.get?_modify, isStored, Option.map_some]
    split
    · exact ⟨_, rfl, (keepsSymbol stored).trans onSymbol⟩
    · exact ⟨_, rfl, onSymbol⟩

/-- A fill keeps the stores consistent. -/
theorem applyFill
    (consistent : adapter.Consistent)
    (symbol : String)
    (side : OrderSide)
    (quantity price : Decimal)
    (reduceOnly : Bool) :
    (adapter.applyFill symbol side quantity price reduceOnly).Consistent where
  numbered := by
    intro orderId order stored
    rw [applyFill_orders] at stored
    rw [applyFill_orderIdSeq]
    exact consistent.numbered stored
  upperSymbol := by
    intro orderId order stored
    rw [applyFill_orders] at stored
    exact consistent.upperSymbol stored
  mappedStored := by
    intro clientOrderId orderId mapped
    rw [applyFill_clientToOrder] at mapped
    rw [applyFill_orders]
    exact consistent.mappedStored mapped
  positionSymbol := by
    intro other position found
    by_cases same : other = symbol
    · subst same
      unfold MockBinanceAdapter.applyFill at found
      cases located : adapter.positions.get? other with
      | none =>
          rw [located] at found
          cases reduceOnly with
          | true =>
              exact consistent.positionSymbol found
          | false =>
              simp only [Bool.false_eq_true, ↓reduceIte,
                OrderedDict.get?_set, Option.some.injEq] at found
              rw [← found]
      | some current =>
          rw [located] at found
          dsimp only at found
          split at found
          · simp [OrderedDict.get?_erase] at found
          · simp only [OrderedDict.get?_modify, ↓reduceIte, located,
              Option.map_some, Option.some.injEq] at found
            have keptSymbol := consistent.positionSymbol located
            rw [← found]
            exact keptSymbol
    · rw [applyFill_position_other _ _ _ _ _ _ same] at found
      exact consistent.positionSymbol found
  entryStored := by
    intro other orderId entry
    rw [applyFill_protections] at entry
    rw [applyFill_orders]
    exact consistent.entryStored entry

/-- Deleting an entry keeps the stores consistent. -/
theorem unprotect
    (consistent : adapter.Consistent)
    (symbol : String) :
    (adapter.unprotect symbol).Consistent where
  numbered := consistent.numbered
  upperSymbol := consistent.upperSymbol
  mappedStored := consistent.mappedStored
  positionSymbol := consistent.positionSymbol
  entryStored := by
    intro other orderId entry
    simp only [MockBinanceAdapter.unprotect, OrderedDict.get?_erase]
      at entry
    split at entry
    · cases entry
    · exact consistent.entryStored entry

/-- A new stop keeps the stores consistent. -/
theorem placeStop
    (consistent : adapter.Consistent)
    (request : StopRequest)
    (now : Int) :
    (adapter.placeStop request now).1.Consistent := by
  have recorded : (adapter.record (adapter.stopOf request now)).Consistent :=
    consistent.record rfl ⟨request.symbol, rfl⟩
  exact {
    numbered := recorded.numbered
    upperSymbol := recorded.upperSymbol
    mappedStored := recorded.mappedStored
    positionSymbol := recorded.positionSymbol
    entryStored := by
      intro symbol orderId entry
      simp only [MockBinanceAdapter.placeStop, OrderedDict.get?_set] at entry
      split at entry
      · next here =>
          cases entry
          refine ⟨adapter.stopOf request now, ?_, here.symm⟩
          exact (OrderedDict.get?_set _ _ _ _).trans (if_pos rfl)
      · exact recorded.entryStored entry }

/-- Every call keeps the stores consistent. -/
theorem step
    (consistent : adapter.Consistent)
    (op : MockOp) :
    (adapter.step op).1.Consistent := by
  cases op with
  | placeOrder request now =>
      simp only [MockBinanceAdapter.step]
      cases known : adapter.clientToOrder.get? request.clientOrderId with
      | some orderId =>
          rw [placeOrder_known known]
          exact consistent
      | none =>
          have recorded :
              (adapter.record (adapter.orderOf request now)).Consistent :=
            consistent.record rfl ⟨request.symbol, rfl⟩
          rw [placeOrder_fresh known]
          dsimp only
          split
          · exact recorded.applyFill _ _ _ _ _
          · exact recorded
  | cancelOrder query now =>
      simp only [MockBinanceAdapter.step, cancelOrder_fst]
      split
      · exact consistent
      · exact consistent.amend _ fun _ => rfl
  | placeStop request now =>
      exact consistent.placeStop request now
  | replaceStop replacement now =>
      have retired :
          (adapter.retire replacement.existingOrderId).Consistent :=
        consistent.amend _ fun _ => rfl
      exact retired.placeStop _ now
  | cancelProtection query now =>
      have unprotected := consistent.unprotect (upperText query.symbol)
      simp only [MockBinanceAdapter.step, cancelProtection_fst]
      split
      · exact unprotected
      · exact unprotected.amend _ fun _ => rfl
  | setMarkPrice symbol price =>
      exact ⟨consistent.numbered, consistent.upperSymbol,
        consistent.mappedStored, consistent.positionSymbol,
        consistent.entryStored⟩

end Consistent

end MockBinanceAdapter

/-- Every run of a fresh adapter leads to a reachable state. -/
theorem MockReachable.of_run
    (defaultMark : Decimal)
    (ops : List MockOp) :
    MockReachable (mockMachine.final (.create defaultMark) ops) :=
  ⟨defaultMark, ops,
    mockMachine.admitted_of_always (fun _ _ => trivial) _ _, rfl⟩

/-- Every reachable state is consistent. -/
theorem MockReachable.consistent
    {adapter : MockBinanceAdapter}
    (reachable : MockReachable adapter) :
    adapter.Consistent := by
  obtain ⟨defaultMark, reached⟩ := reachable
  apply reached.invariant MockBinanceAdapter.Consistent
  · exact .create defaultMark
  · intro state op consistent _
    exact consistent.step op

end SafeSignalTrader
