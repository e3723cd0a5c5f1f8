import Mathlib.Algebra.BigOperators.Group.List.Basic
import Mathlib.Tactic.Linarith
import SafeSignalTrader.MockRuns

/-!
# Positions of the exchange adapter

How the signed amount of a position moves: by the signed quantity of a market
order under a new client id, and by nothing else.  Over a run the amounts are
the sums of those quantities.
-/

namespace SafeSignalTrader

open PythonText
open RunSemantics

/-- The symbol an order is stored under. -/
def OrderRequest.storedSymbol (request : OrderRequest) : String :=
  upperText request.symbol

/-- A positive quantity has a sign on either side. -/
theorem OrderSide.signed_ne_zero
    (side : OrderSide)
    {quantity : Decimal}
    (positive : 0 < quantity) :
    side.signed quantity ≠ 0 := by
  cases side with
  | buy => exact ne_of_gt positive
  | sell => exact neg_ne_zero.mpr (ne_of_gt positive)

/-- An order of a positive quantity moves the position. -/
theorem OrderRequest.signedQty_ne_zero
    {request : OrderRequest}
    (positive : 0 < request.quantity) :
    request.signedQty ≠ 0 :=
  request.side.signed_ne_zero positive

/-- A market order under the symbol `BTCUSDT`. -/
def btcOrder
    (side : OrderSide)
    (quantity : Decimal)
    (clientOrderId : String)
    (reduceOnly : Bool) : OrderRequest where
  symbol := "BTCUSDT"
  side := side
  orderType := "MARKET"
  quantity := quantity
  price := none
  clientOrderId := clientOrderId
  reduceOnly := reduceOnly

namespace MockBinanceAdapter

/-- The signed amount held in a symbol; zero when no position is stored. -/
def positionAmt (adapter : MockBinanceAdapter) (symbol : String) : Decimal :=
  match adapter.positions.get? symbol with
  | some position => position.positionAmt
  | none => 0

/-- The order a call fills at once, if it does. -/
def filledOrder?
    (adapter : MockBinanceAdapter) : MockOp → Option OrderRequest
  | .placeOrder request _ =>
      if adapter.clientToOrder.get? request.clientOrderId = none ∧
          request.isMarket = true then
        some request
      else
        none
  | _ => none

/-- A call that fills nothing leaves positions and realized result alone. -/
theorem step_unfilled
    {adapter : MockBinanceAdapter}
    {op : MockOp}
    (unfilled : adapter.filledOrder? op = none) :
    (adapter.step op).1.positions = adapter.positions ∧
      (adapter.step op).1.realizedPnl = adapter.realizedPnl := by
  cases op with
  | placeOrder request now =>
      simp only [step]
      cases known : adapter.clientToOrder.get? request.clientOrderId with
      | some orderId =>
          rw [placeOrder_known known]
          exact ⟨rfl, rfl⟩
      | none =>
          have notMarket : request.isMarket = false := by
            simpa [filledOrder?, known] using unfilled
          rw [placeOrder_fresh known, notMarket]
          exact ⟨rfl, rfl⟩
  | cancelOrder query now =>
      simp only [step, cancelOrder_fst]
      split <;> exact ⟨rfl, rfl⟩
  | placeStop request now =>
      exact ⟨rfl, rfl⟩
  | replaceStop replacement now =>
      exact ⟨rfl, rfl⟩
  | cancelProtection query now =>
      simp only [step, cancelProtection_fst]
      split <;> exact ⟨rfl, rfl⟩
  | setMarkPrice symbol price =>
      exact ⟨rfl, rfl⟩

/-- A call that fills an order records it and applies the fill. -/
theorem step_filled
    {adapter : MockBinanceAdapter}
    {op : MockOp}
    {request : OrderRequest}
    (filled : adapter.filledOrder? op = some request) :
    ∃ now, op = .placeOrder request now ∧
      (adapter.step op).1 =
        (adapter.record (adapter.orderOf request now)).applyFill
          request.storedSymbol request.side request.quantity
          (adapter.fillPrice request) request.reduceOnly := by
  cases op with
  | placeOrder requested now =>
      simp only [filledOrder?] at filled
      split at filled
      · next isFill =>
          cases filled
          refine ⟨now, rfl, ?_⟩
          simp only [step]
          rw [placeOrder_fresh isFill.1, isFill.2]
          rfl
      · cases filled
  | cancelOrder query now => cases filled
  | placeStop request now => cases filled
  | replaceStop replacement now => cases filled
  | cancelProtection query now => cases filled
  | setMarkPrice symbol price => cases filled

section Fill

variable (adapter : MockBinanceAdapter)
variable (symbol : String)
variable (side : OrderSide)
variable (quantity price : Decimal)
variable (reduceOnly : Bool)

/-- Without a position, only a fill that is not reduce-only opens one. -/
theorem applyFill_flat
    (flat : adapter.positions.get? symbol = none) :
    adapter.applyFill symbol side quantity price reduceOnly =
      if reduceOnly then
        adapter
      else
        { adapter with
          positions := adapter.positions.set symbol
            { symbol := symbol
              positionAmt := side.signed quantity
              entryPrice := price
              unrealizedProfit := 0
              leverage := 10 } } := by
  rw [applyFill, flat]

/-- A position that is filled to zero is closed and its result booked. -/
theorem applyFill_closed
    {position : MockPosition}
    (held : adapter.positions.get? symbol = some position)
    (closes : position.positionAmt + side.signed quantity = 0) :
    adapter.applyFill symbol side quantity price reduceOnly =
      { adapter with
        realizedPnl :=
          adapter.realizedPnl +
            (price - position.entryPrice) * position.positionAmt
        positions := adapter.positions.erase symbol } := by
  rw [applyFill, held]
  exact if_pos closes

/-- Any other fill changes the position in place and books nothing. -/
theorem applyFill_kept
    {position : MockPosition}
    (held : adapter.positions.get? symbol = some position)
    (keeps : position.positionAmt + side.signed quantity ≠ 0) :
    adapter.applyFill symbol side quantity price reduceOnly =
      { adapter with
        positions := adapter.positions.modify symbol fun position =>
          position.filled (side.signed quantity) price } := by
  rw [applyFill, held]
  exact if_neg keeps

/-- A reduce-only fill without a position leaves none. -/
theorem positionAmt_applyFill_flat
    (flat : adapter.positions.get? symbol = none) :
    (adapter.applyFill symbol side quantity price reduceOnly).positionAmt
        symbol =
      if reduceOnly then 0 else side.signed quantity := by
  rw [applyFill_flat _ _ _ _ _ _ flat]
  cases reduceOnly with
  | true => simp [positionAmt, flat]
  | false => simp [positionAmt, OrderedDict.get?_set]

/-- A fill on a position adds its signed quantity, reduce-only or not. -/
theorem positionAmt_applyFill_held
    {position : MockPosition}
    (held : adapter.positions.get? symbol = some position) :
    (adapter.applyFill symbol side quantity price reduceOnly).positionAmt
        symbol =
      position.positionAmt + side.signed quantity := by
  by_cases closes : position.positionAmt + side.signed quantity = 0
  · rw [applyFill_closed _ _ _ _ _ _ held closes, closes]
    simp [positionAmt, OrderedDict.get?_erase]
  · rw [applyFill_kept _ _ _ _ _ _ held closes]
    simp [positionAmt, OrderedDict.get?_modify, held, MockPosition.filled]

/-- A fill that may open a position adds its signed quantity. -/
theorem positionAmt_applyFill (other : String) :
    (adapter.applyFill symbol side quantity price false).positionAmt other =
      adapter.positionAmt other +
        if symbol = other then side.signed quantity else 0 := by
  by_cases same : symbol = other
  · subst same
    rw [if_pos rfl]
    cases held : adapter.positions.get? symbol with
    | none =>
        rw [positionAmt_applyFill_flat _ _ _ _ _ _ held]
        simp [positionAmt, held]
    | some position =>
        rw [positionAmt_applyFill_held _ _ _ _ _ _ held]
        simp [positionAmt, held]
  · rw [if_neg same, add_zero]
    simp only [positionAmt,
      applyFill_position_other _ _ _ _ _ _ (Ne.symm same)]

end Fill

end MockBinanceAdapter

end SafeSignalTrader
