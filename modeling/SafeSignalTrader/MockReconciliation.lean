import SafeSignalTrader.MockPositions

/-!
# Reconciliation of positions with submitted orders

Over a run the amount of every position is the sum of the market orders that
were submitted under a new client id.  The map of client ids knows exactly the
ids submitted so far, by orders and by stops, so a repeated submission finds a
stored order and does nothing.
-/

namespace SafeSignalTrader

open RunSemantics

namespace MockOp

/-- An order that may open a position, or any call that is not an order. -/
def OpensFreely : MockOp → Prop
  | .placeOrder request _ => request.reduceOnly = false ∧ 0 < request.quantity
  | _ => True

instance decidableOpensFreely : DecidablePred OpensFreely
  | .placeOrder _ _ => inferInstanceAs (Decidable (_ ∧ _))
  | .cancelOrder _ _ => isTrue trivial
  | .placeStop _ _ => isTrue trivial
  | .replaceStop _ _ => isTrue trivial
  | .cancelProtection _ _ => isTrue trivial
  | .setMarkPrice _ _ => isTrue trivial

/-- The client ids a list of calls submits. -/
def submittedIds (ops : List MockOp) : List String :=
  ops.filterMap submittedId?

/-- The market orders of a run under client ids that were not used before. -/
def newMarketOrders : List String → List MockOp → List OrderRequest
  | _, [] => []
  | used, op :: rest =>
      let usedNext := op.submittedId?.toList ++ used
      match op with
      | .placeOrder request _ =>
          if request.clientOrderId ∉ used ∧ request.isMarket = true then
            request :: newMarketOrders usedNext rest
          else
            newMarketOrders usedNext rest
      | _ => newMarketOrders usedNext rest

/-- The net quantity of the orders on one symbol. -/
def netQty (symbol : String) (requests : List OrderRequest) : Decimal :=
  ((requests.filter fun request => request.storedSymbol = symbol).map
    OrderRequest.signedQty).sum

end MockOp

namespace MockBinanceAdapter

/-- The client ids the adapter knows are those used. -/
def Knows (adapter : MockBinanceAdapter) (used : List String) : Prop :=
  ∀ clientOrderId,
    (adapter.clientToOrder.get? clientOrderId).isSome = true ↔
      clientOrderId ∈ used

/-- Recording an order adds its client id. -/
theorem Knows.record
    {adapter : MockBinanceAdapter}
    {used : List String}
    (knows : adapter.Knows used)
    (order : MockOrder) :
    (adapter.record order).Knows (order.clientOrderId :: used) := by
  intro clientOrderId
  simp only [MockBinanceAdapter.record, OrderedDict.get?_set, List.mem_cons]
  by_cases same : clientOrderId = order.clientOrderId
  · simp [same]
  · rw [if_neg same, knows clientOrderId]
    simp [same]

/-- Every call adds the client id it submits to the known ones. -/
theorem Knows.step
    {adapter : MockBinanceAdapter}
    {used : List String}
    (knows : adapter.Knows used)
    (op : MockOp) :
    (adapter.step op).1.Knows (op.submittedId?.toList ++ used) := by
  cases op with
  | placeOrder request now =>
      simp only [MockBinanceAdapter.step]
      cases known : adapter.clientToOrder.get? request.clientOrderId with
      | some orderId =>
          have isUsed : request.clientOrderId ∈ used :=
            (knows _).mp (by rw [known]; rfl)
          rw [placeOrder_known known]
          intro clientOrderId
          rw [knows clientOrderId]
          simp only [MockOp.submittedId?, Option.toList_some,
            List.singleton_append, List.mem_cons]
          constructor
          · exact Or.inr
          · intro member
            rcases member with same | member
            · rw [same]
              exact isUsed
            · exact member
      | none =>
          have recorded := knows.record (adapter.orderOf request now)
          rw [placeOrder_fresh known]
          dsimp only
          split
          · intro clientOrderId
            rw [applyFill_clientToOrder]
            exact recorded clientOrderId
          · exact recorded
  | cancelOrder query now =>
      simp only [MockBinanceAdapter.step, cancelOrder_fst]
      split <;> exact knows
  | placeStop request now =>
      exact knows.record (adapter.stopOf request now)
  | replaceStop replacement now =>
      have retired :
          (adapter.retire replacement.existingOrderId).Knows used :=
        knows
      exact retired.record ((adapter.retire _).stopOf _ now)
  | cancelProtection query now =>
      simp only [MockBinanceAdapter.step, cancelProtection_fst]
      split <;> exact knows
  | setMarkPrice symbol price =>
      exact knows

/-- After a run the adapter knows the ids the run submitted. -/
theorem knows_final
    (defaultMark : Decimal)
    (ops : List MockOp) :
    (mockMachine.final (create defaultMark) ops).Knows
      (MockOp.submittedIds ops) := by
  induction ops using List.reverseRecOn with
  | nil =>
      intro clientOrderId
      simp [create, MockOp.submittedIds]
  | append_singleton earlier op inductionHypothesis =>
      rw [mockMachine.final_append]
      intro clientOrderId
      rw [show mockMachine.final _ [op] = (step _ op).1 from rfl,
        inductionHypothesis.step op clientOrderId]
      cases submitted : op.submittedId? with
      | none =>
          simp [MockOp.submittedIds, List.filterMap_append, submitted]
      | some submittedId =>
          simp [MockOp.submittedIds, List.filterMap_append, submitted,
            or_comm]

/-- The next call contributes the order it fills, if any. -/
theorem newMarketOrders_cons
    {adapter : MockBinanceAdapter}
    {used : List String}
    (knows : adapter.Knows used)
    (op : MockOp)
    (rest : List MockOp) :
    MockOp.newMarketOrders used (op :: rest) =
      (adapter.filledOrder? op).toList ++
        MockOp.newMarketOrders (op.submittedId?.toList ++ used) rest := by
  cases op with
  | placeOrder request now =>
      have sameTest :
          adapter.clientToOrder.get? request.clientOrderId = none ↔
            request.clientOrderId ∉ used := by
        rw [← knows, Bool.not_eq_true, Option.isSome_eq_false_iff,
          Option.isNone_iff_eq_none]
      simp only [MockOp.newMarketOrders, filledOrder?, sameTest]
      split <;> rfl
  | cancelOrder query now => rfl
  | placeStop request now => rfl
  | replaceStop replacement now => rfl
  | cancelProtection query now => rfl
  | setMarkPrice symbol price => rfl

/-- One call moves the amount in a symbol by the order it fills. -/
theorem positionAmt_step
    {adapter : MockBinanceAdapter}
    {op : MockOp}
    (opens : op.OpensFreely)
    (symbol : String) :
    (adapter.step op).1.positionAmt symbol =
      adapter.positionAmt symbol +
        MockOp.netQty symbol (adapter.filledOrder? op).toList := by
  cases filled : adapter.filledOrder? op with
  | none =>
      simp [positionAmt, step_unfilled filled, MockOp.netQty]
  | some request =>
      obtain ⟨now, isOrder, stepped⟩ := step_filled filled
      subst isOrder
      have sameAmount :
          (adapter.record (adapter.orderOf request now)).positionAmt symbol =
            adapter.positionAmt symbol :=
        rfl
      rw [stepped, opens.1, positionAmt_applyFill, sameAmount]
      by_cases same : request.storedSymbol = symbol
      · simp [MockOp.netQty, same, OrderRequest.signedQty]
      · simp [MockOp.netQty, same]

/-- Over a run the amounts move by the new market orders. -/
theorem positionAmt_final
    {adapter : MockBinanceAdapter}
    {used : List String}
    {ops : List MockOp}
    (knows : adapter.Knows used)
    (opens : ∀ op ∈ ops, op.OpensFreely)
    (symbol : String) :
    (mockMachine.final adapter ops).positionAmt symbol =
      adapter.positionAmt symbol +
        MockOp.netQty symbol (MockOp.newMarketOrders used ops) := by
  induction ops generalizing adapter used with
  | nil =>
      simp [MockOp.newMarketOrders, MockOp.netQty]
  | cons op rest inductionHypothesis =>
      have opensRest : ∀ later ∈ rest, later.OpensFreely :=
        fun later member => opens later (List.mem_cons_of_mem op member)
      have moved :=
        @positionAmt_step adapter op (opens op List.mem_cons_self) symbol
      rw [mockMachine.final_cons, newMarketOrders_cons knows]
      refine (inductionHypothesis (knows.step op) opensRest).trans ?_
      refine (congrArg (· + _) moved).trans ?_
      simp only [MockOp.netQty, List.filter_append, List.map_append,
        List.sum_append, add_assoc]

/-- No stored position is empty. -/
def HoldsNonzero (adapter : MockBinanceAdapter) : Prop :=
  ∀ symbol position,
    adapter.positions.get? symbol = some position →
      position.positionAmt ≠ 0

/-- A fill of a non-zero quantity never leaves an empty position. -/
theorem HoldsNonzero.applyFill
    {adapter : MockBinanceAdapter}
    (nonzero : adapter.HoldsNonzero)
    (symbol : String)
    {side : OrderSide}
    {quantity : Decimal}
    (moves : side.signed quantity ≠ 0)
    (price : Decimal) :
    (adapter.applyFill symbol side quantity price false).HoldsNonzero := by
  intro other position found
  by_cases here : other = symbol
  · subst here
    cases held : adapter.positions.get? other with
    | none =>
        rw [applyFill_flat _ _ _ _ _ _ held] at found
        simp only [Bool.false_eq_true, ↓reduceIte, OrderedDict.get?_set,
          Option.some.injEq] at found
        rw [← found]
        exact moves
    | some current =>
        by_cases closes : current.positionAmt + side.signed quantity = 0
        · rw [applyFill_closed _ _ _ _ _ _ held closes] at found
          simp [OrderedDict.get?_erase] at found
        · rw [applyFill_kept _ _ _ _ _ _ held closes] at found
          simp only [OrderedDict.get?_modify, ↓reduceIte, held,
            Option.map_some, Option.some.injEq] at found
          rw [← found]
          exact closes
  · rw [applyFill_position_other _ _ _ _ _ _ here] at found
    exact nonzero other position found

/-- A call that opens freely never leaves an empty position. -/
theorem HoldsNonzero.step
    {adapter : MockBinanceAdapter}
    (nonzero : adapter.HoldsNonzero)
    {op : MockOp}
    (opens : op.OpensFreely) :
    (adapter.step op).1.HoldsNonzero := by
  cases filled : adapter.filledOrder? op with
  | none =>
      intro symbol position found
      rw [(step_unfilled filled).1] at found
      exact nonzero symbol position found
  | some request =>
      obtain ⟨now, isOrder, stepped⟩ := step_filled filled
      subst isOrder
      rw [stepped, opens.1]
      have recorded :
          (adapter.record (adapter.orderOf request now)).HoldsNonzero :=
        nonzero
      exact recorded.applyFill _ (OrderRequest.signedQty_ne_zero opens.2) _

/-- A run of freely opening calls leaves no empty position. -/
theorem holdsNonzero_final
    {defaultMark : Decimal}
    {ops : List MockOp}
    (opens : ∀ op ∈ ops, op.OpensFreely) :
    (mockMachine.final (create defaultMark) ops).HoldsNonzero := by
  apply mockMachine.invariant_of_ops HoldsNonzero _ _ opens
  · intro state op nonzero opensFreely
    exact nonzero.step opensFreely
  · intro symbol position impossible
    cases impossible

end MockBinanceAdapter

/--
Position reconciliation.  In a run of a fresh adapter whose orders are not
reduce-only and have positive quantities, whatever else is called in between,
the amount stored for a symbol is the net quantity of the market orders on it
under new client ids, no empty position is stored, and an order under a client
id submitted before returns a stored order and changes nothing.
-/
theorem positionsReconciled
    (defaultMark : Decimal)
    (ops : List MockOp)
    (opens : ∀ op ∈ ops, op.OpensFreely) :
    (∀ symbol,
        (mockMachine.final (.create defaultMark) ops).positionAmt symbol =
          MockOp.netQty symbol (MockOp.newMarketOrders [] ops)) ∧
      (∀ symbol position,
        (mockMachine.final (.create defaultMark) ops).positions.get? symbol =
            some position →
          position.positionAmt ≠ 0) ∧
      ∀ earlier request now later,
        ops = earlier ++ .placeOrder request now :: later →
        request.clientOrderId ∈ MockOp.submittedIds earlier →
          ∃ orderId order,
            (mockMachine.final (.create defaultMark) earlier).orders.get?
                orderId = some order ∧
              mockMachine.step
                  (mockMachine.final (.create defaultMark) earlier)
                  (.placeOrder request now) =
                (mockMachine.final (.create defaultMark) earlier,
                  .order (.ok order)) := by
  refine ⟨?_, ?_, ?_⟩
  · intro symbol
    have fresh : (MockBinanceAdapter.create defaultMark).Knows [] :=
      MockBinanceAdapter.knows_final defaultMark []
    rw [MockBinanceAdapter.positionAmt_final fresh opens symbol]
    exact zero_add _
  · exact MockBinanceAdapter.holdsNonzero_final opens
  · intro earlier request now later _ submitted
    have reachable := MockReachable.of_run defaultMark earlier
    have known :=
      (MockBinanceAdapter.knows_final defaultMark earlier _).mpr submitted
    obtain ⟨orderId, mapped⟩ := Option.isSome_iff_exists.mp known
    obtain ⟨order, stored⟩ :=
      Option.isSome_iff_exists.mp (reachable.consistent.mappedStored mapped)
    refine ⟨orderId, order, stored, ?_⟩
    simp only [mockMachine, MockBinanceAdapter.step,
      MockBinanceAdapter.placeOrder] at mapped stored ⊢
    rw [mapped]
    dsimp only
    rw [stored]

/-- A long of 2, with a repeated order in between, is flipped by a sell of 3. -/
theorem positionsReconciled_flipped :
    (mockMachine.final (.create 100)
      [.placeOrder (btcOrder .buy 2 "entry" false) 0,
        .setMarkPrice "btcusdt" 110,
        .placeOrder (btcOrder .buy 5 "entry" false) 1,
        .placeOrder (btcOrder .sell 3 "exit" false) 2]).positionAmt
      "BTCUSDT" = -1 :=
  ((positionsReconciled 100
    [.placeOrder (btcOrder .buy 2 "entry" false) 0,
      .setMarkPrice "btcusdt" 110,
      .placeOrder (btcOrder .buy 5 "entry" false) 1,
      .placeOrder (btcOrder .sell 3 "exit" false) 2]
    (by decide +kernel)).1 "BTCUSDT").trans (by decide +kernel)

end SafeSignalTrader
