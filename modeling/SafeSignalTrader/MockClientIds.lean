import SafeSignalTrader.MockOrderMoves
import SafeSignalTrader.MockProtections

/-!
# Client ids of orders and stops

Orders, stops and replacements share one map of client ids, and only
`place_order` looks into it first.  A stop under a client id that is in use
takes the entry over, and the order filed before is out of reach of its id.
-/

namespace SafeSignalTrader

open RunSemantics

namespace MockBinanceAdapter

/-- Every stored order can be told apart and reached by its client id. -/
structure Addressable (adapter : MockBinanceAdapter) : Prop where
  distinct :
    ∀ {firstId secondId first second},
      adapter.orders.get? firstId = some first →
      adapter.orders.get? secondId = some second →
      first.clientOrderId = second.clientOrderId →
        firstId = secondId
  mapped :
    ∀ {orderId order},
      adapter.orders.get? orderId = some order →
        adapter.clientToOrder.get? order.clientOrderId = some order.orderId
  oneLiveStop :
    ∀ {firstId secondId first second},
      adapter.orders.get? firstId = some first →
      adapter.orders.get? secondId = some second →
      first.isLiveStop = true →
      second.isLiveStop = true →
      first.clientOrderId = second.clientOrderId →
        firstId = secondId
  found :
    ∀ {orderId order},
      adapter.orders.get? orderId = some order →
        ∀ symbol,
          adapter.getOrder ⟨symbol, none, some order.clientOrderId⟩ =
            some order
  canceled :
    ∀ {orderId order},
      adapter.orders.get? orderId = some order →
        ∀ symbol now,
          (adapter.cancelOrder ⟨symbol, none, some order.clientOrderId⟩
              now).1 =
            adapter.markCanceled order.orderId now

/-- A submission under a client id that names it, and a stop under a new one. -/
def SubmitsApart (adapter : MockBinanceAdapter) : MockOp → Prop
  | .placeOrder request _ => request.clientOrderId ≠ ""
  | .placeStop request _ =>
      request.clientOrderId ≠ "" ∧
        adapter.clientToOrder.get? request.clientOrderId = none
  | .replaceStop replacement _ =>
      replacement.clientOrderId ≠ "" ∧
        adapter.clientToOrder.get? replacement.clientOrderId = none
  | .cancelOrder _ _ => True
  | .cancelProtection _ _ => True
  | .setMarkPrice _ _ => True

/-- Records are filed under their order id, and the map leads to them. -/
structure Filed (adapter : MockBinanceAdapter) : Prop where
  keyed :
    ∀ {orderId order},
      adapter.orders.get? orderId = some order → order.orderId = orderId
  carried :
    ∀ {clientOrderId orderId},
      adapter.clientToOrder.get? clientOrderId = some orderId →
        ∃ order, adapter.orders.get? orderId = some order ∧
          order.clientOrderId = clientOrderId

/-- Every stored order has a client id, and the map leads back to it. -/
def MapsBack (adapter : MockBinanceAdapter) : Prop :=
  ∀ orderId order, adapter.orders.get? orderId = some order →
    order.clientOrderId ≠ "" ∧
      adapter.clientToOrder.get? order.clientOrderId = some orderId

variable {adapter : MockBinanceAdapter}
variable {op : MockOp}
variable {order : MockOrder}

section Filing

theorem Filed.create (defaultMark : Decimal) : (create defaultMark).Filed where
  keyed := by
    intro orderId order stored
    cases stored
  carried := by
    intro clientOrderId orderId mapped
    cases mapped

/-- Every call files its records under their order id. -/
theorem Filed.step
    (filed : adapter.Filed)
    (consistent : adapter.Consistent)
    (op : MockOp) :
    (adapter.step op).1.Filed where
  keyed := by
    intro orderId order found
    cases stored : adapter.orders.get? orderId with
    | some old =>
        rw [get?_step_of_stored consistent stored, Option.some.injEq]
          at found
        rw [← found, amended_orderId]
        exact filed.keyed stored
    | none =>
        obtain ⟨created, isNext⟩ := createdOrder?_of_get?_step stored found
        rw [createdOrder?_orderId created, isNext]
  carried := by
    intro clientOrderId orderId mapped
    rw [clientToOrder_step] at mapped
    cases created : adapter.createdOrder? op with
    | none =>
        rw [created] at mapped
        obtain ⟨old, stored, carries⟩ := filed.carried mapped
        exact ⟨_, get?_step_of_stored consistent stored op,
          amended_clientOrderId.trans carries⟩
    | some order =>
        simp only [created, OrderedDict.get?_set] at mapped
        split at mapped
        · next isNew =>
            cases mapped
            exact ⟨order, get?_step_of_created created, isNew.symm⟩
        · obtain ⟨old, stored, carries⟩ := filed.carried mapped
          exact ⟨_, get?_step_of_stored consistent stored op,
            amended_clientOrderId.trans carries⟩

/-- An order id is a number in digits. -/
theorem Consistent.orderId_ne_empty
    (consistent : adapter.Consistent)
    {orderId : String}
    (stored : adapter.orders.get? orderId = some order) :
    orderId ≠ "" := by
  obtain ⟨number, _, isNumber⟩ := consistent.numbered stored
  rw [isNumber]
  exact Nat.repr_ne_empty

theorem truthy_of_ne_empty {text : String} (nonempty : text ≠ "") :
    truthy (some text) = some text := by
  simp [truthy, Option.filter, nonempty]

/-- A query by a client id finds what the map leads to. -/
theorem resolve?_clientOrderId
    (consistent : adapter.Consistent)
    {clientOrderId orderId : String}
    (named : clientOrderId ≠ "")
    (mapped : adapter.clientToOrder.get? clientOrderId = some orderId)
    (stored : adapter.orders.get? orderId = some order)
    (symbol : String) :
    adapter.resolve? ⟨symbol, none, some clientOrderId⟩ =
      some (orderId, order) := by
  rw [resolve?_eq_some_iff]
  refine ⟨?_, stored⟩
  have noOrderId : truthy none = none := rfl
  simp only [resolveId, noOrderId, truthy_of_ne_empty named,
    Option.bind_some, mapped,
    truthy_of_ne_empty (consistent.orderId_ne_empty stored)]

/-- An empty client id is a missing one. -/
theorem resolve?_empty (symbol : String) :
    adapter.resolve? ⟨symbol, none, some ""⟩ = none :=
  resolve?_eq_none_of_no_id rfl

end Filing

/-- Orders are addressable exactly if the map leads back to each of them. -/
theorem addressable_iff
    (consistent : adapter.Consistent)
    (filed : adapter.Filed) :
    adapter.Addressable ↔ adapter.MapsBack := by
  constructor
  · intro addressable orderId order stored
    have mapped := addressable.mapped stored
    rw [filed.keyed stored] at mapped
    refine ⟨?_, mapped⟩
    intro unnamed
    have found := addressable.found stored "BTCUSDT"
    rw [unnamed, getOrder, resolve?_empty] at found
    cases found
  · intro mapsBack
    have distinct :
        ∀ {firstId secondId first second},
          adapter.orders.get? firstId = some first →
          adapter.orders.get? secondId = some second →
          first.clientOrderId = second.clientOrderId →
            firstId = secondId := by
      intro firstId secondId first second firstStored secondStored sameClient
      have firstMapped := (mapsBack firstId first firstStored).2
      rw [sameClient, (mapsBack secondId second secondStored).2]
        at firstMapped
      exact (Option.some.inj firstMapped).symm
    have resolved :
        ∀ {orderId order},
          adapter.orders.get? orderId = some order →
            ∀ symbol,
              adapter.resolve? ⟨symbol, none, some order.clientOrderId⟩ =
                some (orderId, order) := by
      intro orderId order stored symbol
      obtain ⟨named, mapped⟩ := mapsBack orderId order stored
      exact resolve?_clientOrderId consistent named mapped stored symbol
    exact {
      distinct := distinct
      mapped := by
        intro orderId order stored
        rw [filed.keyed stored]
        exact (mapsBack orderId order stored).2
      oneLiveStop := fun first second _ _ => distinct first second
      found := by
        intro orderId order stored symbol
        rw [getOrder, resolved stored symbol]
        rfl
      canceled := by
        intro orderId order stored symbol now
        rw [cancelOrder_fst, resolved stored symbol, filed.keyed stored] }

/-- A call that files nothing keeps the way back to the orders. -/
theorem MapsBack.step_of_not_created
    (mapsBack : adapter.MapsBack)
    (consistent : adapter.Consistent)
    (filesNone : adapter.createdOrder? op = none) :
    (adapter.step op).1.MapsBack := by
  intro orderId order found
  cases stored : adapter.orders.get? orderId with
  | none =>
      have created := (createdOrder?_of_get?_step stored found).1
      rw [filesNone] at created
      cases created
  | some old =>
      rw [get?_step_of_stored consistent stored, Option.some.injEq] at found
      rw [← found, amended_clientOrderId, clientToOrder_step, filesNone]
      exact mapsBack orderId old stored

/--
A call that files an order keeps the way back to all orders exactly if the
client id of the new one is not empty and not in use.
-/
theorem MapsBack.step_of_created_iff
    (mapsBack : adapter.MapsBack)
    (consistent : adapter.Consistent)
    (filed : adapter.Filed)
    (created : adapter.createdOrder? op = some order) :
    (adapter.step op).1.MapsBack ↔
      order.clientOrderId ≠ "" ∧
        adapter.clientToOrder.get? order.clientOrderId = none := by
  have nextId := createdOrder?_orderId created
  have mappedAfter :
      (adapter.step op).1.clientToOrder =
        adapter.clientToOrder.set order.clientOrderId order.orderId := by
    rw [clientToOrder_step, created]
  constructor
  · intro after
    refine ⟨(after _ order (get?_step_of_created created)).1, ?_⟩
    cases known : adapter.clientToOrder.get? order.clientOrderId with
    | none => rfl
    | some oldId =>
        -- The record filed under this client id before is cut off.
        obtain ⟨old, stored, carries⟩ := filed.carried known
        have cutOff :=
          (after oldId _ (get?_step_of_stored consistent stored op)).2
        rw [amended_clientOrderId, carries, mappedAfter,
          OrderedDict.get?_set, if_pos rfl, Option.some.injEq, nextId]
          at cutOff
        exact absurd cutOff.symm (consistent.ne_next stored)
  · intro newId orderId found isFound
    rw [mappedAfter, OrderedDict.get?_set]
    cases stored : adapter.orders.get? orderId with
    | none =>
        obtain ⟨isCreated, isNext⟩ :=
          createdOrder?_of_get?_step stored isFound
        rw [created] at isCreated
        cases isCreated
        rw [if_pos rfl, nextId, isNext]
        exact ⟨newId.1, rfl⟩
    | some old =>
        rw [get?_step_of_stored consistent stored, Option.some.injEq]
          at isFound
        rw [← isFound, amended_clientOrderId]
        obtain ⟨named, mapped⟩ := mapsBack orderId old stored
        refine ⟨named, ?_⟩
        rw [if_neg, mapped]
        intro sameClient
        rw [sameClient, newId.2] at mapped
        cases mapped

/-- A call keeps the way back to the orders exactly if it submits apart. -/
theorem MapsBack.step_iff
    (mapsBack : adapter.MapsBack)
    (consistent : adapter.Consistent)
    (filed : adapter.Filed)
    (op : MockOp) :
    (adapter.step op).1.MapsBack ↔ adapter.SubmitsApart op := by
  cases op with
  | placeOrder request now =>
      cases known : adapter.clientToOrder.get? request.clientOrderId with
      | some orderId =>
          have filesNone :
              adapter.createdOrder? (.placeOrder request now) = none := by
            simp [createdOrder?, known]
          obtain ⟨order, stored, carries⟩ := filed.carried known
          refine iff_of_true
            (mapsBack.step_of_not_created consistent filesNone) ?_
          rw [SubmitsApart, ← carries]
          exact (mapsBack orderId order stored).1
      | none =>
          have created :
              adapter.createdOrder? (.placeOrder request now) =
                some (adapter.orderOf request now) :=
            if_pos known
          rw [mapsBack.step_of_created_iff consistent filed created]
          exact and_iff_left known
  | placeStop request now =>
      have created :
          adapter.createdOrder? (.placeStop request now) =
            some (adapter.stopOf request now) :=
        rfl
      exact mapsBack.step_of_created_iff consistent filed created
  | replaceStop replacement now =>
      have created :
          adapter.createdOrder? (.replaceStop replacement now) =
            some (adapter.stopOf
              (replacement.newStop
                (adapter.orders.get? replacement.existingOrderId)) now) :=
        rfl
      exact mapsBack.step_of_created_iff consistent filed created
  | cancelOrder query now =>
      exact iff_of_true (mapsBack.step_of_not_created consistent rfl) trivial
  | cancelProtection query now =>
      exact iff_of_true (mapsBack.step_of_not_created consistent rfl) trivial
  | setMarkPrice symbol price =>
      exact iff_of_true (mapsBack.step_of_not_created consistent rfl) trivial

end MockBinanceAdapter

/-- Every reachable state files its records under their order id. -/
theorem MockReachable.filed
    {adapter : MockBinanceAdapter}
    (reachable : MockReachable adapter) :
    adapter.Filed := by
  obtain ⟨defaultMark, reached⟩ := reachable
  have both :
      adapter.Consistent ∧ adapter.Filed := by
    apply reached.invariant fun state => state.Consistent ∧ state.Filed
    · exact ⟨.create defaultMark, .create defaultMark⟩
    · intro state op holds _
      exact ⟨holds.1.step op, holds.2.step holds.1 op⟩
  exact both.2

/--
In every state of a run the stored orders have different client ids and are
reached by them exactly if no submission of the run has the empty client id and
no stop is placed, or put in place of another, under a client id in use.
-/
theorem clientIdsAddressable_iff
    (defaultMark : Decimal)
    (ops : List MockOp) :
    (∀ earlier later, ops = earlier ++ later →
        (mockMachine.final (.create defaultMark) earlier).Addressable) ↔
      ∀ executed ∈ mockMachine.trace (.create defaultMark) ops,
        executed.before.SubmitsApart executed.op := by
  have addressableIff (earlier : List MockOp) :
      (mockMachine.final (.create defaultMark) earlier).Addressable ↔
        (mockMachine.final (.create defaultMark) earlier).MapsBack :=
    have reachable := MockReachable.of_run defaultMark earlier
    MockBinanceAdapter.addressable_iff reachable.consistent reachable.filed
  rw [mockMachine.forall_mem_trace_iff]
  simp only [addressableIff]
  apply forall_prefix_iff
  · intro orderId order stored
    cases stored
  · intro earlier op later _ mapsBack
    have reachable := MockReachable.of_run defaultMark earlier
    rw [mockMachine.final_append]
    exact mapsBack.step_iff reachable.consistent reachable.filed op

/-- A stop that is placed again under its client id is live twice. -/
theorem retried_stop_live_twice :
    ¬ ∀ adapter, MockReachable adapter → adapter.Addressable := by
  intro addressable
  let ops : List MockOp :=
    [.placeStop (btcStop "stop") 0, .placeStop (btcStop "stop") 1]
  have firstLive :
      ((mockMachine.final (.create 100) ops).orders.get? "1").map
          (fun order => (order.isLiveStop, order.clientOrderId)) =
        some (true, "stop") := by
    decide +kernel
  have secondLive :
      ((mockMachine.final (.create 100) ops).orders.get? "2").map
          (fun order => (order.isLiveStop, order.clientOrderId)) =
        some (true, "stop") := by
    decide +kernel
  obtain ⟨first, firstStored, firstIs⟩ := Option.map_eq_some_iff.mp firstLive
  obtain ⟨second, secondStored, secondIs⟩ :=
    Option.map_eq_some_iff.mp secondLive
  have sameId :=
    (addressable _ (MockReachable.of_run 100 ops)).oneLiveStop firstStored
      secondStored (congrArg Prod.fst firstIs) (congrArg Prod.fst secondIs)
      ((congrArg Prod.snd firstIs).trans (congrArg Prod.snd secondIs).symm)
  exact absurd sameId (by decide)

end SafeSignalTrader
