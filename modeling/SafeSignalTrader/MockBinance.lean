import Mathlib.Algebra.Order.Group.Abs
import SafeSignalTrader.DomainModels
import SafeSignalTrader.UpperCase

/-!
# The in-memory exchange adapter

`MockBinanceAdapter` of `adapters/binance/mock.py`.  Numbers that the source
stores as their decimal text are kept by value, and a protection, which is a
reference to a stored order record, by the id of that order.  Clock readings,
in milliseconds, are arguments.  A method that may raise returns the state it
leaves behind next to the exception.
-/

namespace SafeSignalTrader

open PythonText

/-- The quantity of an order with the sign of its side. -/
def OrderSide.signed (side : OrderSide) (quantity : Decimal) : Decimal :=
  match side with
  | .buy => quantity
  | .sell => -quantity

/-- Status of an order on the exchange. -/
inductive OrderStatus where
  | new
  | filled
  | canceled
  deriving Repr, DecidableEq

/-- The fields an order and a protection stop do not share. -/
inductive OrderTerms where
  | order (executedQty price avgPrice : Decimal)
  | stop (stopPrice : Decimal)
  deriving Repr, DecidableEq

/-- A stored order record. -/
structure MockOrder where
  orderId : String
  clientOrderId : String
  symbol : String
  side : OrderSide
  type : String
  origQty : Decimal
  status : OrderStatus
  reduceOnly : Bool
  updateTime : Int
  terms : OrderTerms
  deriving Repr, DecidableEq

/-- A stored position record. -/
structure MockPosition where
  symbol : String
  positionAmt : Decimal
  entryPrice : Decimal
  unrealizedProfit : Decimal
  leverage : Decimal
  deriving Repr, DecidableEq

/-- The arguments of `place_order`; `extra` is never read. -/
structure OrderRequest where
  symbol : String
  side : OrderSide
  orderType : String
  quantity : Decimal
  price : Option Decimal
  clientOrderId : String
  reduceOnly : Bool
  deriving Repr, DecidableEq

/-- The arguments of `place_stop`. -/
structure StopRequest where
  symbol : String
  side : OrderSide
  stopPrice : Decimal
  quantity : Decimal
  clientOrderId : String
  reduceOnly : Bool
  deriving Repr, DecidableEq

/-- The arguments of `replace_stop`. -/
structure StopReplacement where
  symbol : String
  existingOrderId : String
  newStopPrice : Decimal
  quantity : Decimal
  clientOrderId : String
  deriving Repr, DecidableEq

/-- The arguments that name an order to look up or to cancel. -/
structure OrderQuery where
  symbol : String
  orderId : Option String
  clientOrderId : Option String
  deriving Repr, DecidableEq

namespace OrderRequest

/-- Whether the order is filled at once. -/
def isMarket (request : OrderRequest) : Bool :=
  upperText request.orderType == "MARKET"

/-- The quantity with the sign of the side. -/
def signedQty (request : OrderRequest) : Decimal :=
  request.side.signed request.quantity

end OrderRequest

/-- The position after a fill that does not close it. -/
def MockPosition.filled
    (position : MockPosition)
    (signedQty price : Decimal) : MockPosition :=
  let current := position.positionAmt
  let newQty := current + signedQty
  { position with
    positionAmt := newQty
    entryPrice :=
      if (0 < current ∧ 0 < signedQty) ∨ (current < 0 ∧ signedQty < 0) then
        (|current| * position.entryPrice + |signedQty| * price) / |newQty|
      else
        position.entryPrice }

/-- The new stop of a replacement; an unknown order is taken as a sell. -/
def StopReplacement.newStop
    (replacement : StopReplacement)
    (old : Option MockOrder) : StopRequest where
  symbol := replacement.symbol
  side :=
    match old with
    | some order => order.side
    | none => .sell
  stopPrice := replacement.newStopPrice
  quantity := replacement.quantity
  clientOrderId := replacement.clientOrderId
  reduceOnly := true

/-- The adapter; `orderIdSeq` is the number of the next order. -/
structure MockBinanceAdapter where
  markPrices : OrderedDict String Decimal
  defaultMark : Decimal
  positions : OrderedDict String MockPosition
  orders : OrderedDict String MockOrder
  orderIdSeq : Nat
  clientToOrder : OrderedDict String String
  protections : OrderedDict String String
  realizedPnl : Decimal

namespace MockBinanceAdapter

/-- `MockBinanceAdapter(default_mark_price=...)`. -/
def create (defaultMarkPrice : Decimal := 50000) : MockBinanceAdapter where
  markPrices := .empty
  defaultMark := defaultMarkPrice
  positions := .empty
  orders := .empty
  orderIdSeq := 1
  clientToOrder := .empty
  protections := .empty
  realizedPnl := 0

/-- `get_mark_price`. -/
def getMarkPrice (adapter : MockBinanceAdapter) (symbol : String) : Decimal :=
  (adapter.markPrices.get? (upperText symbol)).getD adapter.defaultMark

/-- `set_mark_price`. -/
def setMarkPrice
    (adapter : MockBinanceAdapter)
    (symbol : String)
    (price : Decimal) : MockBinanceAdapter :=
  { adapter with
    markPrices := adapter.markPrices.set (upperText symbol) price }

/-- `_apply_fill`. -/
def applyFill
    (adapter : MockBinanceAdapter)
    (symbol : String)
    (side : OrderSide)
    (quantity price : Decimal)
    (reduceOnly : Bool) : MockBinanceAdapter :=
  let signedQty := side.signed quantity
  match adapter.positions.get? symbol with
  | none =>
      if reduceOnly then
        adapter
      else
        { adapter with
          positions := adapter.positions.set symbol
            { symbol := symbol
              positionAmt := signedQty
              entryPrice := price
              unrealizedProfit := 0
              leverage := 10 } }
  | some position =>
      let current := position.positionAmt
      if current + signedQty = 0 then
        { adapter with
          realizedPnl :=
            adapter.realizedPnl + (price - position.entryPrice) * current
          positions := adapter.positions.erase symbol }
      else
        { adapter with
          positions := adapter.positions.modify symbol fun position =>
            position.filled signedQty price }

/-- The id the next order gets. -/
def nextOrderId (adapter : MockBinanceAdapter) : String :=
  toString adapter.orderIdSeq

/-- Store a new order under its id and its client id. -/
def record
    (adapter : MockBinanceAdapter)
    (order : MockOrder) : MockBinanceAdapter :=
  { adapter with
    orders := adapter.orders.set order.orderId order
    orderIdSeq := adapter.orderIdSeq + 1
    clientToOrder :=
      adapter.clientToOrder.set order.clientOrderId order.orderId }

/-- The price an order is filled at, or rests at. -/
def fillPrice
    (adapter : MockBinanceAdapter)
    (request : OrderRequest) : Decimal :=
  match request.price with
  | some price =>
      if upperText request.orderType = "LIMIT" then
        price
      else
        adapter.getMarkPrice (upperText request.symbol)
  | none => adapter.getMarkPrice (upperText request.symbol)

/-- The record `place_order` makes of a new order. -/
def orderOf
    (adapter : MockBinanceAdapter)
    (request : OrderRequest)
    (now : Int) : MockOrder where
  orderId := adapter.nextOrderId
  clientOrderId := request.clientOrderId
  symbol := upperText request.symbol
  side := request.side
  type := upperText request.orderType
  origQty := request.quantity
  status := if request.isMarket then .filled else .new
  reduceOnly := request.reduceOnly
  updateTime := now
  terms :=
    if request.isMarket then
      .order request.quantity (adapter.fillPrice request)
        (adapter.fillPrice request)
    else
      .order 0 (adapter.fillPrice request) 0

/-- `place_order`; a known client id gives back the order stored under it. -/
def placeOrder
    (adapter : MockBinanceAdapter)
    (request : OrderRequest)
    (now : Int) : MockBinanceAdapter × Except PyException MockOrder :=
  match adapter.clientToOrder.get? request.clientOrderId with
  | some orderId =>
      match adapter.orders.get? orderId with
      | some order => (adapter, .ok order)
      | none => (adapter, .error (.keyError orderId))
  | none =>
      let order := adapter.orderOf request now
      let recorded := adapter.record order
      if request.isMarket then
        (recorded.applyFill (upperText request.symbol) request.side
          request.quantity (adapter.fillPrice request) request.reduceOnly,
          .ok order)
      else
        (recorded, .ok order)

/-- A text that is given and not empty, which Python takes as true. -/
def truthy (text : Option String) : Option String :=
  text.filter fun given => given ≠ ""

/-- `order_id or (client_to_order.get(client_order_id) if ... else None)`. -/
def resolveId
    (adapter : MockBinanceAdapter)
    (query : OrderQuery) : Option String :=
  match truthy query.orderId with
  | some orderId => some orderId
  | none => truthy ((truthy query.clientOrderId).bind
      adapter.clientToOrder.get?)

/-- The stored order a query resolves to. -/
def resolve?
    (adapter : MockBinanceAdapter)
    (query : OrderQuery) : Option (String × MockOrder) :=
  (adapter.resolveId query).bind fun orderId =>
    (adapter.orders.get? orderId).map fun order => (orderId, order)

/-- Python's text of an optional string. -/
def optionalText (text : Option String) : String :=
  text.getD "None"

/-- The adapter after a stored order is marked as canceled. -/
def markCanceled
    (adapter : MockBinanceAdapter)
    (orderId : String)
    (now : Int) : MockBinanceAdapter :=
  { adapter with
    orders := adapter.orders.modify orderId fun order =>
      { order with
        status := .canceled
        updateTime := now } }

/-- `cancel_order`. -/
def cancelOrder
    (adapter : MockBinanceAdapter)
    (query : OrderQuery)
    (now : Int) : MockBinanceAdapter × Except PyException MockOrder :=
  match adapter.resolve? query with
  | none =>
      (adapter, .error (.keyError ("order not found: order_id=" ++
        optionalText query.orderId ++ " client=" ++
        optionalText query.clientOrderId)))
  | some (orderId, order) =>
      (adapter.markCanceled orderId now,
        .ok { order with
          status := .canceled
          updateTime := now })

/-- `get_order`. -/
def getOrder
    (adapter : MockBinanceAdapter)
    (query : OrderQuery) : Option MockOrder :=
  (adapter.resolve? query).map Prod.snd

/-- The record `place_stop` makes of a new stop. -/
def stopOf
    (adapter : MockBinanceAdapter)
    (request : StopRequest)
    (now : Int) : MockOrder where
  orderId := adapter.nextOrderId
  clientOrderId := request.clientOrderId
  symbol := upperText request.symbol
  side := request.side
  type := "STOP_MARKET"
  origQty := request.quantity
  status := .new
  reduceOnly := request.reduceOnly
  updateTime := now
  terms := .stop request.stopPrice

/-- `place_stop`. -/
def placeStop
    (adapter : MockBinanceAdapter)
    (request : StopRequest)
    (now : Int) : MockBinanceAdapter × MockOrder :=
  let order := adapter.stopOf request now
  let recorded := adapter.record order
  ({ recorded with
    protections :=
      recorded.protections.set order.symbol order.orderId },
    order)

/-- The adapter after `replace_stop` canceled the existing order. -/
def retire
    (adapter : MockBinanceAdapter)
    (orderId : String) : MockBinanceAdapter :=
  { adapter with
    orders := adapter.orders.modify orderId fun order =>
      { order with status := .canceled } }

/-- `replace_stop`. -/
def replaceStop
    (adapter : MockBinanceAdapter)
    (replacement : StopReplacement)
    (now : Int) : MockBinanceAdapter × MockOrder :=
  let old := adapter.orders.get? replacement.existingOrderId
  (adapter.retire replacement.existingOrderId).placeStop
    (replacement.newStop old) now

/-- The adapter after the protection entry of a symbol is deleted. -/
def unprotect
    (adapter : MockBinanceAdapter)
    (symbol : String) : MockBinanceAdapter :=
  { adapter with protections := adapter.protections.erase symbol }

/-- `cancel_protection`; the entry goes first, then the named order. -/
def cancelProtection
    (adapter : MockBinanceAdapter)
    (query : OrderQuery)
    (now : Int) : MockBinanceAdapter × Except PyException Unit :=
  let unprotected := adapter.unprotect (upperText query.symbol)
  if (truthy query.orderId).isSome || (truthy query.clientOrderId).isSome then
    let canceled := unprotected.cancelOrder query now
    (canceled.1, canceled.2.map fun _ => ())
  else
    (unprotected, .ok ())

/-- `get_positions`. -/
def getPositions
    (adapter : MockBinanceAdapter)
    (symbol : Option String := none) : List MockPosition :=
  match truthy symbol with
  | some symbol => (adapter.positions.get? (upperText symbol)).toList
  | none => adapter.positions.values

/-- `get_realized_pnl`; one account for all symbols. -/
def getRealizedPnl
    (adapter : MockBinanceAdapter)
    (_symbol : Option String := none) : Decimal :=
  adapter.realizedPnl

/-- `get_unrealized_pnl`. -/
def getUnrealizedPnl
    (adapter : MockBinanceAdapter)
    (symbol : Option String := none) : Decimal :=
  (adapter.getPositions symbol).foldl (fun total position =>
    if position.positionAmt = 0 then
      total
    else
      total + (adapter.getMarkPrice position.symbol - position.entryPrice) *
        position.positionAmt) 0

end MockBinanceAdapter

end SafeSignalTrader
