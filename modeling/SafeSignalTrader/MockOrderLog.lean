import SafeSignalTrader.EventLog
import SafeSignalTrader.MockOrderMoves
import SafeSignalTrader.MockPositions

/-!
# The order records are a log

The adapter files its orders under consecutive ids and never takes one back;
apart from its status and the time of its last update a record stays as it was
filed.  The account, that is the positions and the realized result, is what
replaying the filed market orders gives.
-/

namespace SafeSignalTrader

open EventLog
open PythonText
open RunSemantics

namespace MockOrder

/-- What no call changes of a record. -/
def lasting (order : MockOrder) : MockOrder :=
  { order with
    status := .new
    updateTime := 0 }

/-- The account after a filed order: market orders are filled at once. -/
def replay
    (account : MockBinanceAdapter)
    (order : MockOrder) : MockBinanceAdapter :=
  match order.terms with
  | .order _ price _ =>
      if order.type == "MARKET" then
        account.applyFill order.symbol order.side order.origQty price
          order.reduceOnly
      else
        account
  | .stop _ => account

end MockOrder

namespace MockBinanceAdapter

/-- The positions and the realized result on an adapter without orders. -/
def account (adapter : MockBinanceAdapter) : MockBinanceAdapter :=
  { create with
    positions := adapter.positions
    realizedPnl := adapter.realizedPnl }

/-- The account that replaying filed orders gives. -/
def replayed (orders : List MockOrder) : MockBinanceAdapter :=
  orders.foldl MockOrder.replay create

/-- What lasts of the filed orders, in the order of filing. -/
def orderLog (adapter : MockBinanceAdapter) : List MockOrder :=
  adapter.orders.values.map MockOrder.lasting

section Steps

variable (adapter : MockBinanceAdapter)

/-- A fill moves the account by itself. -/
theorem account_applyFill
    (symbol : String)
    (side : OrderSide)
    (quantity price : Decimal)
    (reduceOnly : Bool) :
    (adapter.applyFill symbol side quantity price reduceOnly).account =
      adapter.account.applyFill symbol side quantity price reduceOnly := by
  have samePositions :
      adapter.account.positions = adapter.positions := rfl
  cases held : adapter.positions.get? symbol with
  | none =>
      rw [applyFill_flat _ _ _ _ _ _ held,
        applyFill_flat adapter.account _ _ _ _ _ held]
      cases reduceOnly <;> rfl
  | some position =>
      by_cases closes : position.positionAmt + side.signed quantity = 0
      · rw [applyFill_closed _ _ _ _ _ _ held closes,
          applyFill_closed adapter.account _ _ _ _ _ held closes]
        rfl
      · rw [applyFill_kept _ _ _ _ _ _ held closes,
          applyFill_kept adapter.account _ _ _ _ _ held closes]
        rfl

/-- The records after the cancellation a call makes. -/
def canceledOrders (op : MockOp) : OrderedDict String MockOrder :=
  match adapter.canceledId? op with
  | some orderId => adapter.orders.modify orderId op.cancel
  | none => adapter.orders

/-- The records after one call: one canceled, one filed. -/
theorem orders_step (op : MockOp) :
    (adapter.step op).1.orders =
      match adapter.createdOrder? op with
      | some order => (adapter.canceledOrders op).set order.orderId order
      | none => adapter.canceledOrders op := by
  cases op with
  | placeOrder request now =>
      simp only [step, createdOrder?]
      cases known : adapter.clientToOrder.get? request.clientOrderId with
      | some knownId =>
          rw [placeOrder_known known]
          rfl
      | none =>
          rw [placeOrder_fresh known]
          simp only [↓reduceIte]
          split
          · rw [applyFill_orders]
            rfl
          · rfl
  | cancelOrder query now =>
      simp only [step, cancelOrder_fst, createdOrder?, canceledOrders,
        canceledId?]
      cases adapter.resolve? query <;> rfl
  | placeStop request now => rfl
  | replaceStop replacement now => rfl
  | cancelProtection query now =>
      simp only [step, cancelProtection_fst, createdOrder?, canceledOrders,
        canceledId?]
      cases adapter.resolve? query <;> rfl
  | setMarkPrice symbol price => rfl

/-- Replaying a new order fills it if it is a market order. -/
theorem replay_orderOf
    (account : MockBinanceAdapter)
    (request : OrderRequest)
    (now : Int) :
    (adapter.orderOf request now).replay account =
      if request.isMarket then
        account.applyFill (upperText request.symbol) request.side
          request.quantity (adapter.fillPrice request) request.reduceOnly
      else
        account := by
  have sameTest :
      (upperText request.orderType == "MARKET") = request.isMarket :=
    rfl
  cases market : request.isMarket with
  | true =>
      simp only [MockOrder.replay, orderOf, sameTest, market, ↓reduceIte]
  | false =>
      simp only [MockOrder.replay, orderOf, sameTest, market,
        Bool.false_eq_true, ↓reduceIte]

/-- The account after one call: the order it files is replayed. -/
theorem account_step (op : MockOp) :
    (adapter.step op).1.account =
      match adapter.createdOrder? op with
      | some order => order.replay adapter.account
      | none => adapter.account := by
  cases op with
  | placeOrder request now =>
      simp only [step, createdOrder?]
      cases known : adapter.clientToOrder.get? request.clientOrderId with
      | some knownId =>
          rw [placeOrder_known known]
          simp
      | none =>
          rw [placeOrder_fresh known]
          simp only [↓reduceIte, replay_orderOf]
          split
          · exact account_applyFill _ _ _ _ _ _
          · rfl
  | cancelOrder query now =>
      simp only [step, cancelOrder_fst, createdOrder?]
      cases adapter.resolve? query <;> rfl
  | placeStop request now => rfl
  | replaceStop replacement now => rfl
  | cancelProtection query now =>
      simp only [step, cancelProtection_fst, createdOrder?]
      cases adapter.resolve? query <;> rfl
  | setMarkPrice symbol price => rfl

/-- Canceling leaves what lasts of the records. -/
theorem mapTo_canceledOrders (op : MockOp) :
    (adapter.canceledOrders op).mapTo MockOrder.lasting =
      adapter.orders.mapTo MockOrder.lasting := by
  unfold canceledOrders
  cases adapter.canceledId? op with
  | none =>
      rfl
  | some orderId =>
      have unseen : ∀ order, (op.cancel order).lasting = order.lasting := by
        intro order
        cases op <;> rfl
      have shown :
          (adapter.orders.modify orderId op.cancel).mapTo MockOrder.lasting =
            (adapter.orders.mapTo MockOrder.lasting).modify orderId id :=
        OrderedDict.mapTo_modify fun order _ => unseen order
      simp only [shown]
      apply OrderedDict.ext
      simp [OrderedDict.modify]

/-- The number of the next order after one call. -/
theorem orderIdSeq_step (op : MockOp) :
    (adapter.step op).1.orderIdSeq =
      adapter.orderIdSeq + (adapter.createdOrder? op).toList.length := by
  cases op with
  | placeOrder request now =>
      simp only [step, createdOrder?]
      cases known : adapter.clientToOrder.get? request.clientOrderId with
      | some knownId =>
          rw [placeOrder_known known]
          simp
      | none =>
          rw [placeOrder_fresh known]
          simp only [↓reduceIte]
          split
          · exact applyFill_orderIdSeq _ _ _ _ _ _
          · rfl
  | cancelOrder query now =>
      simp only [step, cancelOrder_fst, createdOrder?]
      cases adapter.resolve? query <;> rfl
  | placeStop request now => rfl
  | replaceStop replacement now => rfl
  | cancelProtection query now =>
      simp only [step, cancelProtection_fst, createdOrder?]
      cases adapter.resolve? query <;> rfl
  | setMarkPrice symbol price => rfl

end Steps

variable {adapter : MockBinanceAdapter}

/-- One call files what it creates behind all other records. -/
theorem entries_step
    (consistent : adapter.Consistent)
    (op : MockOp) :
    ((adapter.step op).1.orders.mapTo MockOrder.lasting).entries =
      (adapter.orders.mapTo MockOrder.lasting).entries ++
        (adapter.createdOrder? op).toList.map fun order =>
          (order.orderId, order.lasting) := by
  rw [orders_step]
  cases created : adapter.createdOrder? op with
  | none =>
      simp [mapTo_canceledOrders]
  | some order =>
      simp only [OrderedDict.mapTo_set, mapTo_canceledOrders]
      apply OrderedDict.entries_set_of_fresh
      rw [OrderedDict.get?_mapTo, createdOrder?_orderId created,
        consistent.fresh]
      rfl

/-- The log of the orders is what the filed entries hold. -/
theorem orderLog_eq (adapter : MockBinanceAdapter) :
    adapter.orderLog =
      (adapter.orders.mapTo MockOrder.lasting).entries.map Prod.snd := by
  simp [orderLog, OrderedDict.mapTo, OrderedDict.values, Function.comp_def]

/-- The orders are filed under consecutive ids, each under its own. -/
structure Numbered (adapter : MockBinanceAdapter) : Prop where
  counted : adapter.orderIdSeq = adapter.orders.size + 1
  keys :
    adapter.orders.keys =
      (List.range' 1 adapter.orders.size).map toString
  ids : adapter.orders.values.map MockOrder.orderId = adapter.orders.keys

namespace Numbered

theorem create (defaultMark : Decimal) : (create defaultMark).Numbered where
  counted := rfl
  keys := rfl
  ids := rfl

/-- Every call files under the next id. -/
theorem step
    (numbered : adapter.Numbered)
    (consistent : adapter.Consistent)
    (op : MockOp) :
    (adapter.step op).1.Numbered := by
  have entries := entries_step consistent op
  have keysAfter :
      (adapter.step op).1.orders.keys =
        adapter.orders.keys ++
          (adapter.createdOrder? op).toList.map MockOrder.orderId := by
    have names := congrArg (List.map Prod.fst) entries
    simpa [OrderedDict.keys, OrderedDict.mapTo, Function.comp_def] using names
  have idsAfter :
      (adapter.step op).1.orders.values.map MockOrder.orderId =
        adapter.orders.values.map MockOrder.orderId ++
          (adapter.createdOrder? op).toList.map MockOrder.orderId := by
    have ids := congrArg (List.map fun entry => entry.2.orderId) entries
    simpa [OrderedDict.values, OrderedDict.mapTo, Function.comp_def,
      MockOrder.lasting] using ids
  have sizeAfter :
      (adapter.step op).1.orders.size =
        adapter.orders.size + (adapter.createdOrder? op).toList.length := by
    have count := congrArg List.length keysAfter
    simpa [OrderedDict.size, OrderedDict.keys] using count
  refine ⟨?_, ?_, ?_⟩
  · rw [orderIdSeq_step, numbered.counted, sizeAfter]
    omega
  · rw [keysAfter, numbered.keys, sizeAfter]
    cases created : adapter.createdOrder? op with
    | none =>
        simp
    | some order =>
        have nextId : order.orderId = toString (1 + adapter.orders.size) := by
          rw [createdOrder?_orderId created, nextOrderId, numbered.counted,
            Nat.add_comm]
        simp [List.range'_1_concat, nextId]
  · rw [idsAfter, numbered.ids, keysAfter]

end Numbered

/-- The orders as the log of the account. -/
def orderLogging : Logging mockMachine MockOrder MockBinanceAdapter where
  holds := Consistent
  log := orderLog
  view := account
  apply := MockOrder.replay
  preserved := fun _ op consistent _ => consistent.step op
  appended := by
    intro adapter op consistent _
    refine ⟨(adapter.createdOrder? op).toList.map MockOrder.lasting, ?_, ?_⟩
    · rw [mockMachine_step, orderLog_eq, entries_step consistent op,
        List.map_append, ← orderLog_eq, List.map_map]
      rfl
    · rw [mockMachine_step, account_step]
      cases adapter.createdOrder? op <;> rfl

end MockBinanceAdapter

/-- Replaying does not look at what changes of the records. -/
theorem replayed_orderLog (adapter : MockBinanceAdapter) :
    adapter.orderLog.foldl MockOrder.replay .create =
      MockBinanceAdapter.replayed adapter.orders.values := by
  rw [MockBinanceAdapter.orderLog, List.foldl_map,
    MockBinanceAdapter.replayed]
  rfl

/--
The order records are a log of the account: in every reachable state they are
filed under the ids from `"1"` on without a gap, replaying the filed market
orders gives the positions and the realized result, and through every later
run the records stay as they were filed, in their order, but for status and
update time.
-/
theorem ordersLogAccount
    (adapter : MockBinanceAdapter)
    (reachable : MockReachable adapter) :
    (adapter.orders.keys =
          (List.range' 1 adapter.orders.size).map toString ∧
        adapter.orders.values.map MockOrder.orderId = adapter.orders.keys ∧
          adapter.orderIdSeq = adapter.orders.size + 1) ∧
      (adapter.positions =
            (MockBinanceAdapter.replayed adapter.orders.values).positions ∧
          adapter.realizedPnl =
            (MockBinanceAdapter.replayed
              adapter.orders.values).realizedPnl) ∧
      ∀ ops,
        adapter.orders.values.map MockOrder.lasting <+:
          (mockMachine.final adapter ops).orders.values.map
            MockOrder.lasting := by
  have consistent := reachable.consistent
  obtain ⟨defaultMark, earlier, admitted, rfl⟩ := reachable
  have initially := MockBinanceAdapter.Consistent.create defaultMark
  have kept :
      (mockMachine.final (.create defaultMark) earlier).Consistent ∧
        (mockMachine.final (.create defaultMark) earlier).Numbered :=
    mockMachine.invariant (fun state => state.Consistent ∧ state.Numbered)
      (fun _ op both _ => ⟨both.1.step op, both.2.step both.1 op⟩)
      ⟨initially, .create defaultMark⟩ admitted
  have rebuilt :=
    MockBinanceAdapter.orderLogging.replay initially rfl admitted
  have account :
      (mockMachine.final (.create defaultMark) earlier).account =
        MockBinanceAdapter.replayed
          (mockMachine.final (.create defaultMark)
            earlier).orders.values := by
    rw [← replayed_orderLog]
    exact rebuilt
  refine ⟨⟨kept.2.keys, kept.2.ids, kept.2.counted⟩, ⟨?_, ?_⟩, ?_⟩
  · rw [← account]
    rfl
  · rw [← account]
    rfl
  · intro ops
    exact MockBinanceAdapter.orderLogging.log_kept consistent
      (mockMachine.admitted_of_always (fun _ _ => trivial) _ ops)

/-- A canceled and a repeated order leave the replayed account as it is. -/
theorem ordersLogAccount_canceled :
    let adapter := mockMachine.final (.create 100)
      [.placeOrder (btcOrder .buy 2 "entry" false) 1,
        .placeOrder (btcOrder .buy 2 "entry" false) 2,
        .setMarkPrice "BTCUSDT" 120,
        .placeOrder (btcOrder .sell 2 "exit" false) 3,
        .cancelOrder ⟨"BTCUSDT", none, some "entry"⟩ 4]
    adapter.realizedPnl =
        (MockBinanceAdapter.replayed adapter.orders.values).realizedPnl ∧
      adapter.realizedPnl = 40 :=
  ⟨(ordersLogAccount _ (.of_run 100
      [.placeOrder (btcOrder .buy 2 "entry" false) 1,
        .placeOrder (btcOrder .buy 2 "entry" false) 2,
        .setMarkPrice "BTCUSDT" 120,
        .placeOrder (btcOrder .sell 2 "exit" false) 3,
        .cancelOrder ⟨"BTCUSDT", none, some "entry"⟩ 4])).2.1.2,
    by decide +kernel⟩

end SafeSignalTrader
