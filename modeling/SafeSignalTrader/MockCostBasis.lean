import SafeSignalTrader.CostBasis
import SafeSignalTrader.MockPositions

/-!
# Cost basis of the exchange adapter

Market orders on one side of a flat symbol are lots, and the adapter keeps
their total quantity and average price.  It recomputes the average from the
stored one, so the stored record depends on the lots only through these two
numbers, and closing the position books the gain of all lots.
-/

namespace SafeSignalTrader

open CostBasis
open PythonText
open RunSemantics

namespace OrderSide

variable (side : OrderSide)

/-- Quantities of one side add up with their sign. -/
theorem signed_add (first second : Decimal) :
    side.signed first + side.signed second = side.signed (first + second) := by
  cases side with
  | buy => rfl
  | sell => exact (neg_add first second).symm

/-- The sign of a quantity carries over to a multiple of it. -/
theorem mul_signed (factor quantity : Decimal) :
    factor * side.signed quantity = side.signed (factor * quantity) := by
  cases side with
  | buy => rfl
  | sell => exact mul_neg factor quantity

/-- The size of a signed quantity is the quantity. -/
theorem abs_signed
    {quantity : Decimal}
    (positive : 0 < quantity) :
    |side.signed quantity| = quantity := by
  cases side with
  | buy => exact abs_of_pos positive
  | sell => exact (abs_neg quantity).trans (abs_of_pos positive)

/-- Positive quantities of one side point in the same direction. -/
theorem signed_sameDirection
    {first second : Decimal}
    (firstPositive : 0 < first)
    (secondPositive : 0 < second) :
    (0 < side.signed first ∧ 0 < side.signed second) ∨
      (side.signed first < 0 ∧ side.signed second < 0) := by
  cases side with
  | buy => exact Or.inl ⟨firstPositive, secondPositive⟩
  | sell =>
      exact Or.inr ⟨neg_neg_of_pos firstPositive,
        neg_neg_of_pos secondPositive⟩

/-- The other side takes away what a side adds. -/
theorem signed_add_of_ne
    {side other : OrderSide}
    (opposite : other ≠ side)
    (quantity : Decimal) :
    side.signed quantity + other.signed quantity = 0 := by
  cases side with
  | buy =>
      cases other with
      | buy => exact absurd rfl opposite
      | sell => exact add_neg_cancel quantity
  | sell =>
      cases other with
      | buy => exact neg_add_cancel quantity
      | sell => exact absurd rfl opposite

end OrderSide

namespace MockBinanceAdapter

/-- The lot a call fills on a symbol, at the mark price of that moment. -/
def lot?
    (adapter : MockBinanceAdapter)
    (symbol : String)
    (op : MockOp) : Option (Lot Decimal) :=
  match adapter.filledOrder? op with
  | some request =>
      if request.storedSymbol = symbol then
        some ⟨request.quantity, adapter.getMarkPrice symbol⟩
      else
        none
  | none => none

/-- The lots a run fills on a symbol, oldest first. -/
def lots
    (adapter : MockBinanceAdapter)
    (symbol : String)
    (ops : List MockOp) : List (Lot Decimal) :=
  (mockMachine.trace adapter ops).filterMap fun executed =>
    executed.before.lot? symbol executed.op

/-- What a call fills on a symbol is a positive quantity on one side. -/
def FillsOneSide
    (symbol : String)
    (side : OrderSide)
    (adapter : MockBinanceAdapter)
    (op : MockOp) : Prop :=
  ∀ request ∈ adapter.filledOrder? op,
    request.storedSymbol = symbol →
      request.side = side ∧ 0 < request.quantity

instance decidableFillsOneSide
    (symbol : String)
    (side : OrderSide)
    (adapter : MockBinanceAdapter)
    (op : MockOp) :
    Decidable (FillsOneSide symbol side adapter op) :=
  inferInstanceAs (Decidable (∀ request ∈ adapter.filledOrder? op,
    request.storedSymbol = symbol →
      request.side = side ∧ 0 < request.quantity))

/-- What a call fills on a symbol is not reduce-only. -/
def FillsFreely
    (symbol : String)
    (adapter : MockBinanceAdapter)
    (op : MockOp) : Prop :=
  ∀ request ∈ adapter.filledOrder? op,
    request.storedSymbol = symbol → request.reduceOnly = false

instance decidableFillsFreely
    (symbol : String)
    (adapter : MockBinanceAdapter)
    (op : MockOp) :
    Decidable (FillsFreely symbol adapter op) :=
  inferInstanceAs (Decidable (∀ request ∈ adapter.filledOrder? op,
    request.storedSymbol = symbol → request.reduceOnly = false))

/-- The position that holds some lots. -/
def positionOf
    (symbol : String)
    (side : OrderSide)
    (lots : List (Lot Decimal)) : MockPosition where
  symbol := symbol
  positionAmt := side.signed (quantity lots)
  entryPrice := average lots
  unrealizedProfit := 0
  leverage := 10

/-- The adapter holds exactly these lots of a symbol. -/
def HoldsLots
    (adapter : MockBinanceAdapter)
    (symbol : String)
    (side : OrderSide)
    (lots : List (Lot Decimal)) : Prop :=
  adapter.positions.get? symbol =
    if lots = [] then none else some (positionOf symbol side lots)

/-- A market order is filled at the mark price of its symbol. -/
theorem fillPrice_of_isMarket
    (adapter : MockBinanceAdapter)
    {request : OrderRequest}
    (market : request.isMarket = true) :
    adapter.fillPrice request =
      adapter.getMarkPrice request.storedSymbol := by
  have isMarket : upperText request.orderType = "MARKET" := by
    simpa [OrderRequest.isMarket] using market
  unfold fillPrice
  rw [isMarket]
  cases request.price <;> rfl

/-- An order that is filled at once is a market order. -/
theorem isMarket_of_filledOrder?
    {adapter : MockBinanceAdapter}
    {op : MockOp}
    {request : OrderRequest}
    (filled : adapter.filledOrder? op = some request) :
    request.isMarket = true := by
  obtain ⟨now, rfl, _⟩ := step_filled filled
  simp only [filledOrder?, Option.ite_none_right_eq_some] at filled
  exact filled.1.2

/-- Adding a lot to a position that holds lots. -/
theorem filled_positionOf
    {symbol : String}
    {side : OrderSide}
    {lots : List (Lot Decimal)}
    {lot : Lot Decimal}
    (held : 0 < quantity lots)
    (positive : 0 < lot.quantity) :
    (positionOf symbol side lots).filled (side.signed lot.quantity)
        lot.price =
      positionOf symbol side (lots ++ [lot]) := by
  have together : 0 < quantity lots + lot.quantity := add_pos held positive
  simp only [MockPosition.filled, positionOf, side.signed_add,
    if_pos (side.signed_sameDirection held positive), side.abs_signed held,
    side.abs_signed positive, side.abs_signed together,
    quantity_append_singleton,
    average_append_singleton (ne_of_gt held) lot]

/-- A fill on the side of the lots held adds a lot. -/
theorem HoldsLots.applyFill
    {adapter : MockBinanceAdapter}
    {symbol : String}
    {side : OrderSide}
    {lots : List (Lot Decimal)}
    {lot : Lot Decimal}
    (holds : adapter.HoldsLots symbol side lots)
    (positive : ∀ held ∈ lots, 0 < held.quantity)
    (lotPositive : 0 < lot.quantity) :
    (adapter.applyFill symbol side lot.quantity lot.price false).HoldsLots
      symbol side (lots ++ [lot]) := by
  rw [HoldsLots, if_neg (by simp)]
  by_cases none : lots = []
  · -- The first lot opens the position at its own price.
    subst none
    have flat : adapter.positions.get? symbol = none := holds
    rw [applyFill_flat _ _ _ _ _ _ flat]
    refine (OrderedDict.get?_set _ _ _ _).trans ?_
    simp [positionOf, quantity, average_singleton (ne_of_gt lotPositive)]
  · have held :
        adapter.positions.get? symbol =
          some (positionOf symbol side lots) :=
      holds.trans (if_neg none)
    have quantityPositive := quantity_pos none positive
    have keeps :
        (positionOf symbol side lots).positionAmt +
            side.signed lot.quantity ≠ 0 := by
      rw [positionOf, side.signed_add]
      exact side.signed_ne_zero (add_pos quantityPositive lotPositive)
    rw [applyFill_kept _ _ _ _ _ _ held keeps]
    refine (OrderedDict.get?_modify _ _ _ _).trans ?_
    rw [if_pos rfl, held, Option.map_some,
      filled_positionOf quantityPositive lotPositive]

/-- One call adds its lot to the lots held. -/
theorem HoldsLots.step
    {adapter : MockBinanceAdapter}
    {symbol : String}
    {side : OrderSide}
    {lots : List (Lot Decimal)}
    {op : MockOp}
    (holds : adapter.HoldsLots symbol side lots)
    (positive : ∀ lot ∈ lots, 0 < lot.quantity)
    (oneSide : FillsOneSide symbol side adapter op)
    (freely : FillsFreely symbol adapter op) :
    (adapter.step op).1.HoldsLots symbol side
      (lots ++ (adapter.lot? symbol op).toList) := by
  unfold lot?
  cases filled : adapter.filledOrder? op with
  | none =>
      simpa [HoldsLots, (step_unfilled filled).1] using holds
  | some request =>
      obtain ⟨now, isOrder, stepped⟩ := step_filled filled
      by_cases here : request.storedSymbol = symbol
      · obtain ⟨sameSide, lotPositive⟩ := oneSide request filled here
        have opens := freely request filled here
        have recorded :
            (adapter.record (adapter.orderOf request now)).HoldsLots
              symbol side lots :=
          holds
        have filledPositive :
            0 < (Lot.mk request.quantity
              (adapter.getMarkPrice symbol)).quantity :=
          lotPositive
        simp only [if_pos here, Option.toList_some]
        rw [stepped, fillPrice_of_isMarket _
          (isMarket_of_filledOrder? filled), here, sameSide, opens]
        exact recorded.applyFill positive filledPositive
      · simp only [if_neg here, Option.toList_none, List.append_nil]
        rw [HoldsLots, stepped,
          applyFill_position_other _ _ _ _ _ _ (Ne.symm here)]
        exact holds

/-- A lot that a call on one side fills has a positive quantity. -/
theorem FillsOneSide.lot_positive
    {adapter : MockBinanceAdapter}
    {symbol : String}
    {side : OrderSide}
    {op : MockOp}
    (oneSide : FillsOneSide symbol side adapter op)
    {lot : Lot Decimal}
    (filled : adapter.lot? symbol op = some lot) :
    0 < lot.quantity := by
  unfold lot? at filled
  cases order : adapter.filledOrder? op with
  | none =>
      rw [order] at filled
      cases filled
  | some request =>
      simp only [order, Option.ite_none_right_eq_some,
        Option.some.injEq] at filled
      obtain ⟨here, rfl⟩ := filled
      exact (oneSide request order here).2

section Runs

variable {adapter : MockBinanceAdapter}
variable {symbol : String}
variable {side : OrderSide}
variable {ops : List MockOp}

/-- The lots of a run on one side have positive quantities. -/
theorem lots_positive
    (oneSide : ∀ executed ∈ mockMachine.trace adapter ops,
      FillsOneSide symbol side executed.before executed.op) :
    ∀ lot ∈ adapter.lots symbol ops, 0 < lot.quantity := by
  intro lot member
  obtain ⟨executed, recorded, filled⟩ := List.mem_filterMap.mp member
  exact (oneSide executed recorded).lot_positive filled

/-- After a run on one side of a flat symbol the adapter holds its lots. -/
theorem holdsLots_final
    (flat : adapter.positions.get? symbol = none)
    (oneSide : ∀ executed ∈ mockMachine.trace adapter ops,
      FillsOneSide symbol side executed.before executed.op)
    (freely : ∀ executed ∈ mockMachine.trace adapter ops,
      FillsFreely symbol executed.before executed.op) :
    (mockMachine.final adapter ops).HoldsLots symbol side
      (adapter.lots symbol ops) := by
  induction ops using List.reverseRecOn with
  | nil =>
      exact flat
  | append_singleton earlier op inductionHypothesis =>
      rw [mockMachine.trace_append] at oneSide freely
      have oneSideEarlier :
          ∀ executed ∈ mockMachine.trace adapter earlier,
            FillsOneSide symbol side executed.before executed.op :=
        fun executed member =>
          oneSide executed (List.mem_append_left _ member)
      have heldEarlier :=
        inductionHypothesis oneSideEarlier fun executed member =>
          freely executed (List.mem_append_left _ member)
      have last :
          mockMachine.execute (mockMachine.final adapter earlier) op ∈
            mockMachine.trace adapter earlier ++
              mockMachine.trace (mockMachine.final adapter earlier) [op] :=
        List.mem_append_right _ List.mem_cons_self
      have stepped :=
        heldEarlier.step (lots_positive oneSideEarlier)
          (oneSide _ last) (freely _ last)
      have allLots :
          adapter.lots symbol (earlier ++ [op]) =
            adapter.lots symbol earlier ++
              ((mockMachine.final adapter earlier).lot? symbol op).toList := by
        rw [lots, mockMachine.trace_append, List.filterMap_append]
        exact congrArg (adapter.lots symbol earlier ++ ·)
          (mockMachine.filterMap_execute
            (fun state => state.lot? symbol) _ op)
      rw [mockMachine.final_append, allLots]
      exact stepped

end Runs

/-- An order of the held quantity on the other side closes the position. -/
theorem HoldsLots.closed
    {adapter : MockBinanceAdapter}
    {symbol : String}
    {side : OrderSide}
    {lots : List (Lot Decimal)}
    (holds : adapter.HoldsLots symbol side lots)
    (nonempty : lots ≠ [])
    (nonzero : quantity lots ≠ 0)
    {request : OrderRequest}
    (fresh : adapter.clientToOrder.get? request.clientOrderId = none)
    (market : request.isMarket = true)
    (onSymbol : request.storedSymbol = symbol)
    (opposite : request.side ≠ side)
    (whole : request.quantity = quantity lots)
    (now : Int) :
    (adapter.placeOrder request now).1.positions.get? symbol = none ∧
      (adapter.placeOrder request now).1.realizedPnl =
        adapter.realizedPnl +
          side.signed (gain (adapter.getMarkPrice symbol) lots) := by
  have held :
      (adapter.record (adapter.orderOf request now)).positions.get? symbol =
        some (positionOf symbol side lots) :=
    holds.trans (if_neg nonempty)
  have closes :
      (positionOf symbol side lots).positionAmt +
          request.side.signed request.quantity = 0 := by
    rw [whole]
    exact OrderSide.signed_add_of_ne opposite _
  have filled :
      (adapter.placeOrder request now).1 =
        (adapter.record (adapter.orderOf request now)).applyFill symbol
          request.side request.quantity (adapter.getMarkPrice symbol)
          request.reduceOnly := by
    rw [placeOrder_fresh fresh, market, fillPrice_of_isMarket _ market,
      onSymbol, ← onSymbol]
    rfl
  rw [filled, applyFill_closed _ _ _ _ _ _ held closes]
  refine ⟨(OrderedDict.get?_erase _ _ _).trans (if_pos rfl), ?_⟩
  have booked :
      (adapter.getMarkPrice symbol - average lots) *
          side.signed (quantity lots) =
        side.signed (gain (adapter.getMarkPrice symbol) lots) := by
    rw [side.mul_signed, gain_eq_average nonzero]
  exact congrArg (adapter.realizedPnl + ·) booked

end MockBinanceAdapter

/--
Average cost basis.  After market orders on one side of a flat symbol, none of
them reduce-only, the position has their total quantity and average price; it
is the same for any order of the fills; and one opposite order of the total
quantity closes it and books exactly what the fills gain.
-/
theorem averageCostBasis
    (adapter : MockBinanceAdapter)
    (symbol : String)
    (side : OrderSide)
    (ops : List MockOp)
    (flat : adapter.positions.get? symbol = none)
    (oneSide : ∀ executed ∈ mockMachine.trace adapter ops,
      MockBinanceAdapter.FillsOneSide symbol side executed.before executed.op)
    (freely : ∀ executed ∈ mockMachine.trace adapter ops,
      MockBinanceAdapter.FillsFreely symbol executed.before executed.op)
    (nonempty : adapter.lots symbol ops ≠ []) :
    (∃ position,
        (mockMachine.final adapter ops).positions.get? symbol =
            some position ∧
          |position.positionAmt| = quantity (adapter.lots symbol ops) ∧
          position.entryPrice =
            cost (adapter.lots symbol ops) /
              quantity (adapter.lots symbol ops)) ∧
      (∀ other otherOps,
        other.positions.get? symbol = none →
        (∀ executed ∈ mockMachine.trace other otherOps,
          MockBinanceAdapter.FillsOneSide symbol side executed.before
            executed.op) →
        (∀ executed ∈ mockMachine.trace other otherOps,
          MockBinanceAdapter.FillsFreely symbol executed.before
            executed.op) →
        (adapter.lots symbol ops).Perm (other.lots symbol otherOps) →
          (mockMachine.final other otherOps).positions.get? symbol =
            (mockMachine.final adapter ops).positions.get? symbol) ∧
      ∀ request now,
        (mockMachine.final adapter ops).clientToOrder.get?
            request.clientOrderId = none →
        request.isMarket = true →
        request.storedSymbol = symbol →
        request.side ≠ side →
        request.quantity = quantity (adapter.lots symbol ops) →
          ((mockMachine.final adapter ops).placeOrder request
              now).1.positions.get? symbol = none ∧
            ((mockMachine.final adapter ops).placeOrder request
                now).1.realizedPnl =
              (mockMachine.final adapter ops).realizedPnl +
                side.signed (gain
                  ((mockMachine.final adapter ops).getMarkPrice symbol)
                  (adapter.lots symbol ops)) := by
  have holds := MockBinanceAdapter.holdsLots_final flat oneSide freely
  have positive :=
    quantity_pos nonempty (MockBinanceAdapter.lots_positive oneSide)
  refine ⟨⟨_, holds.trans (if_neg nonempty), side.abs_signed positive, rfl⟩,
    ?_, ?_⟩
  · intro other otherOps otherFlat otherOneSide otherFreely permuted
    have otherHolds :=
      MockBinanceAdapter.holdsLots_final otherFlat otherOneSide otherFreely
    have otherNonempty : other.lots symbol otherOps ≠ [] := by
      intro none
      rw [none, List.perm_nil] at permuted
      exact nonempty permuted
    rw [holds, otherHolds, if_neg nonempty, if_neg otherNonempty,
      MockBinanceAdapter.positionOf, MockBinanceAdapter.positionOf,
      quantity_perm permuted, average_perm permuted]
  · intro request now fresh market onSymbol opposite whole
    exact holds.closed nonempty (ne_of_gt positive) fresh market onSymbol
      opposite whole now

/-- Two units at 100 and one at 130, sold together at 120, gain 30. -/
theorem averageCostBasis_sold :
    let ops : List MockOp :=
      [.placeOrder (btcOrder .buy 2 "first" false) 0,
        .setMarkPrice "BTCUSDT" 130,
        .placeOrder (btcOrder .buy 1 "second" false) 1,
        .setMarkPrice "BTCUSDT" 120]
    ((mockMachine.final (.create 100) ops).placeOrder
      (btcOrder .sell 3 "exit" true) 2).1.realizedPnl = 30 :=
  ((averageCostBasis (.create 100) "BTCUSDT" .buy
    [.placeOrder (btcOrder .buy 2 "first" false) 0,
      .setMarkPrice "BTCUSDT" 130,
      .placeOrder (btcOrder .buy 1 "second" false) 1,
      .setMarkPrice "BTCUSDT" 120]
    rfl (by decide +kernel) (by decide +kernel) (by decide +kernel)).2.2
      (btcOrder .sell 3 "exit" true) 2 (by decide +kernel)
      (by decide +kernel) (by decide +kernel) (by decide)
      (by decide +kernel)).2.trans (by decide +kernel)

/-- On a flat symbol a reduce-only market order opens nothing. -/
theorem reduce_only_lot_not_held :
    ¬ ∀ (adapter : MockBinanceAdapter) (symbol : String) (side : OrderSide)
        (ops : List MockOp),
      adapter.positions.get? symbol = none →
      (∀ executed ∈ mockMachine.trace adapter ops,
        MockBinanceAdapter.FillsOneSide symbol side executed.before
          executed.op) →
      adapter.lots symbol ops ≠ [] →
        |(mockMachine.final adapter ops).positionAmt symbol| =
          quantity (adapter.lots symbol ops) := by
  intro held
  have opened :=
    held (.create 100) "BTCUSDT" .buy
      [.placeOrder (btcOrder .buy 1 "entry" true) 0]
      rfl (by decide +kernel) (by decide +kernel)
  exact absurd opened (by decide +kernel)

end SafeSignalTrader
