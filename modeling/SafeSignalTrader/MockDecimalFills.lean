import SafeSignalTrader.DecimalArithmetic
import SafeSignalTrader.MockLedger

/-!
# Fills over a decimal arithmetic

`place_order` and `_apply_fill` of the exchange adapter with every operation on
decimals done by a given arithmetic, which may raise.  Over exact arithmetic
they are `placeOrder` and `applyFill`.  A sign and an absolute value round like
any other operation; a decimal read back from its text does not.
-/

namespace SafeSignalTrader

open DecimalContext
open PythonText
open RunSemantics

variable (arithmetic : DecimalArithmetic)

namespace DecimalArithmetic

/-- `-number`. -/
def negate (number : Decimal) : Except DecimalSignal Decimal :=
  arithmetic.subtract 0 number

/-- `abs(number)`. -/
def magnitude (number : Decimal) : Except DecimalSignal Decimal :=
  if number < 0 then
    arithmetic.subtract 0 number
  else
    arithmetic.add 0 number

theorem magnitude_exact (number : Decimal) :
    exact.magnitude number = .ok |number| := by
  unfold magnitude
  split
  · next negative =>
      rw [abs_of_neg negative, ← zero_sub]
      rfl
  · next nonneg =>
      rw [abs_of_nonneg (not_lt.mp nonneg)]
      exact congrArg Except.ok (zero_add number)

end DecimalArithmetic

/-- The quantity of an order with the sign of its side. -/
def OrderSide.signedWith
    (side : OrderSide)
    (quantity : Decimal) : Except DecimalSignal Decimal :=
  match side with
  | .buy => .ok quantity
  | .sell => arithmetic.negate quantity

/-- The position after a fill that does not close it. -/
def MockPosition.filledWith
    (position : MockPosition)
    (signedQty price newQty : Decimal) :
    Except DecimalSignal MockPosition :=
  let current := position.positionAmt
  if (0 < current ∧ 0 < signedQty) ∨ (current < 0 ∧ signedQty < 0) then do
    let held ← arithmetic.magnitude current
    let oldNotional ← arithmetic.multiply held position.entryPrice
    let added ← arithmetic.magnitude signedQty
    let addNotional ← arithmetic.multiply added price
    let total ← arithmetic.add oldNotional addNotional
    let size ← arithmetic.magnitude newQty
    let newEntry ← arithmetic.divide total size
    .ok { position with
      positionAmt := newQty
      entryPrice := newEntry }
  else
    .ok { position with positionAmt := newQty }

namespace MockBinanceAdapter

/-- `_apply_fill`; when it raises, the adapter is left as it was. -/
def applyFillWith
    (adapter : MockBinanceAdapter)
    (symbol : String)
    (side : OrderSide)
    (quantity price : Decimal)
    (reduceOnly : Bool) : Except DecimalSignal MockBinanceAdapter := do
  let signedQty ← side.signedWith arithmetic quantity
  match adapter.positions.get? symbol with
  | none =>
      if reduceOnly then
        .ok adapter
      else
        .ok { adapter with
          positions := adapter.positions.set symbol
            { symbol := symbol
              positionAmt := signedQty
              entryPrice := price
              unrealizedProfit := 0
              leverage := 10 } }
  | some position =>
      let current := position.positionAmt
      let newQty ← arithmetic.add current signedQty
      if newQty = 0 then
        let move ← arithmetic.subtract price position.entryPrice
        let pnl ← arithmetic.multiply move current
        let realizedPnl ← arithmetic.add adapter.realizedPnl pnl
        .ok { adapter with
          realizedPnl := realizedPnl
          positions := adapter.positions.erase symbol }
      else
        let filled ← position.filledWith arithmetic signedQty price newQty
        .ok { adapter with
          positions := adapter.positions.modify symbol fun _ => filled }

/-- `place_order`; the order is stored before its fill may raise. -/
def placeOrderWith
    (adapter : MockBinanceAdapter)
    (request : OrderRequest)
    (now : Int) :
    MockBinanceAdapter ×
      Except DecimalSignal (Except PyException MockOrder) :=
  match adapter.clientToOrder.get? request.clientOrderId with
  | some orderId =>
      match adapter.orders.get? orderId with
      | some order => (adapter, .ok (.ok order))
      | none => (adapter, .ok (.error (.keyError orderId)))
  | none =>
      let order := adapter.orderOf request now
      let recorded := adapter.record order
      if request.isMarket then
        match recorded.applyFillWith arithmetic (upperText request.symbol)
            request.side request.quantity (adapter.fillPrice request)
            request.reduceOnly with
        | .ok filled => (filled, .ok (.ok order))
        | .error signal => (recorded, .error signal)
      else
        (recorded, .ok (.ok order))

/-- The result of one position at a mark price, added to a total. -/
def addUnrealizedWith
    (adapter : MockBinanceAdapter)
    (total : Decimal)
    (position : MockPosition) : Except DecimalSignal Decimal :=
  if position.positionAmt = 0 then
    .ok total
  else do
    let move ← arithmetic.subtract (adapter.getMarkPrice position.symbol)
      position.entryPrice
    let pnl ← arithmetic.multiply move position.positionAmt
    arithmetic.add total pnl

/-- `get_unrealized_pnl`. -/
def getUnrealizedPnlWith
    (adapter : MockBinanceAdapter)
    (symbol : Option String := none) : Except DecimalSignal Decimal :=
  (adapter.getPositions symbol).foldlM
    (adapter.addUnrealizedWith arithmetic) 0

/-- Perform one call; only an order computes with decimals. -/
def stepWith
    (adapter : MockBinanceAdapter) :
    MockOp → MockBinanceAdapter × Except DecimalSignal MockReply
  | .placeOrder request now =>
      ((adapter.placeOrderWith arithmetic request now).1,
        (adapter.placeOrderWith arithmetic request now).2.map .order)
  | op => ((adapter.step op).1, .ok (adapter.step op).2)

end MockBinanceAdapter

/-- The adapter over an arithmetic as a machine. -/
def decimalMachine :
    Machine MockBinanceAdapter MockOp (Except DecimalSignal MockReply) where
  step := MockBinanceAdapter.stepWith arithmetic
  admits := fun _ _ => True

/-- A state some calls lead to from a fresh adapter in the default context. -/
def DecimalReachable (adapter : MockBinanceAdapter) : Prop :=
  ∃ defaultMark,
    (decimalMachine contextArithmetic).Reachable (.create defaultMark) adapter

/-- Every run of a fresh adapter leads to a reachable state. -/
theorem DecimalReachable.of_run
    (defaultMark : Decimal)
    (ops : List MockOp) :
    DecimalReachable
      ((decimalMachine contextArithmetic).final (.create defaultMark) ops) :=
  ⟨defaultMark, ops,
    (decimalMachine contextArithmetic).admitted_of_always
      (fun _ _ => trivial) _ _, rfl⟩

namespace MockBinanceAdapter

/-- Everything that a fill can make of an adapter without raising. -/
inductive FillMove
    (arithmetic : DecimalArithmetic)
    (adapter : MockBinanceAdapter)
    (symbol : String)
    (side : OrderSide)
    (quantity price : Decimal) :
    Bool → MockBinanceAdapter → Prop where
  | ignored
      (signedQty : Decimal)
      (signed : side.signedWith arithmetic quantity = .ok signedQty)
      (flat : adapter.positions.get? symbol = none) :
      FillMove arithmetic adapter symbol side quantity price true adapter
  | opened
      (signedQty : Decimal)
      (signed : side.signedWith arithmetic quantity = .ok signedQty)
      (flat : adapter.positions.get? symbol = none) :
      FillMove arithmetic adapter symbol side quantity price false
        { adapter with
          positions := adapter.positions.set symbol
            { symbol := symbol
              positionAmt := signedQty
              entryPrice := price
              unrealizedProfit := 0
              leverage := 10 } }
  | closed
      (reduceOnly : Bool)
      (position : MockPosition)
      (signedQty move pnl realizedPnl : Decimal)
      (signed : side.signedWith arithmetic quantity = .ok signedQty)
      (held : adapter.positions.get? symbol = some position)
      (closes : arithmetic.add position.positionAmt signedQty = .ok 0)
      (moved : arithmetic.subtract price position.entryPrice = .ok move)
      (multiplied : arithmetic.multiply move position.positionAmt = .ok pnl)
      (booked : arithmetic.add adapter.realizedPnl pnl = .ok realizedPnl) :
      FillMove arithmetic adapter symbol side quantity price reduceOnly
        { adapter with
          realizedPnl := realizedPnl
          positions := adapter.positions.erase symbol }
  | kept
      (reduceOnly : Bool)
      (position filled : MockPosition)
      (signedQty newQty : Decimal)
      (signed : side.signedWith arithmetic quantity = .ok signedQty)
      (held : adapter.positions.get? symbol = some position)
      (added : arithmetic.add position.positionAmt signedQty = .ok newQty)
      (keeps : newQty ≠ 0)
      (averaged :
        position.filledWith arithmetic signedQty price newQty = .ok filled) :
      FillMove arithmetic adapter symbol side quantity price reduceOnly
        { adapter with
          positions := adapter.positions.modify symbol fun _ => filled }

section Moves

variable {arithmetic : DecimalArithmetic}
variable {adapter filled : MockBinanceAdapter}
variable {symbol : String}
variable {side : OrderSide}
variable {quantity price : Decimal}
variable {reduceOnly : Bool}

/-- The fills that do not raise are the moves. -/
theorem applyFillWith_eq_ok_iff :
    adapter.applyFillWith arithmetic symbol side quantity price reduceOnly =
        .ok filled ↔
      FillMove arithmetic adapter symbol side quantity price reduceOnly
        filled := by
  unfold applyFillWith
  constructor
  · intro computed
    obtain ⟨signedQty, signed, rest⟩ := bind_eq_ok_iff.mp computed
    cases held : adapter.positions.get? symbol with
    | none =>
        rw [held] at rest
        cases reduceOnly with
        | true =>
            cases rest
            exact .ignored signedQty signed held
        | false =>
            cases rest
            exact .opened signedQty signed held
    | some position =>
        rw [held] at rest
        obtain ⟨newQty, added, rest⟩ := bind_eq_ok_iff.mp rest
        split at rest
        · next closes =>
            subst closes
            obtain ⟨move, moved, rest⟩ := bind_eq_ok_iff.mp rest
            obtain ⟨pnl, multiplied, rest⟩ := bind_eq_ok_iff.mp rest
            obtain ⟨realizedPnl, booked, returned⟩ := bind_eq_ok_iff.mp rest
            cases returned
            exact .closed reduceOnly position signedQty move pnl realizedPnl
              signed held added moved multiplied booked
        · next keeps =>
            obtain ⟨kept, averaged, returned⟩ := bind_eq_ok_iff.mp rest
            cases returned
            exact .kept reduceOnly position kept signedQty newQty signed held
              added keeps averaged
  · intro move
    cases move with
    | ignored signedQty signed flat =>
        simp only [signed, flat, bind, Except.bind]
        rfl
    | opened signedQty signed flat =>
        simp only [signed, flat, bind, Except.bind]
        rfl
    | closed _ position signedQty move pnl realizedPnl signed held closes
        moved multiplied booked =>
        simp only [signed, held, closes, moved, multiplied, booked, bind,
          Except.bind, if_pos]
    | kept _ position kept signedQty newQty signed held added keeps
        averaged =>
        simp only [signed, held, added, averaged, bind, Except.bind,
          if_neg keeps]

/-- A fill touches nothing but the positions and the realized result. -/
theorem FillMove.withBooks
    (move :
      FillMove arithmetic adapter symbol side quantity price reduceOnly
        filled) :
    filled =
      { adapter with
        positions := filled.positions
        realizedPnl := filled.realizedPnl } := by
  cases move <;> rfl

/-- A fill touches the position of its own symbol only. -/
theorem FillMove.position_other
    (move :
      FillMove arithmetic adapter symbol side quantity price reduceOnly
        filled)
    {other : String}
    (different : other ≠ symbol) :
    filled.positions.get? other = adapter.positions.get? other := by
  cases move with
  | ignored _ _ _ => rfl
  | opened _ _ _ =>
      exact (OrderedDict.get?_set ..).trans (if_neg different)
  | closed _ _ _ _ _ _ _ _ _ _ _ _ =>
      exact (OrderedDict.get?_erase ..).trans (if_neg different)
  | kept _ _ _ _ _ _ _ _ _ _ =>
      exact (OrderedDict.get?_modify ..).trans (if_neg different)

/-- A position that is filled keeps its symbol. -/
theorem filledWith_symbol
    {position kept : MockPosition}
    {signedQty newQty : Decimal}
    (averaged :
      position.filledWith arithmetic signedQty price newQty = .ok kept) :
    kept.symbol = position.symbol ∧ kept.positionAmt = newQty := by
  unfold MockPosition.filledWith at averaged
  dsimp only at averaged
  split at averaged
  · obtain ⟨_, _, rest⟩ := bind_eq_ok_iff.mp averaged
    obtain ⟨_, _, rest⟩ := bind_eq_ok_iff.mp rest
    obtain ⟨_, _, rest⟩ := bind_eq_ok_iff.mp rest
    obtain ⟨_, _, rest⟩ := bind_eq_ok_iff.mp rest
    obtain ⟨_, _, rest⟩ := bind_eq_ok_iff.mp rest
    obtain ⟨_, _, rest⟩ := bind_eq_ok_iff.mp rest
    obtain ⟨_, _, returned⟩ := bind_eq_ok_iff.mp rest
    cases returned
    exact ⟨rfl, rfl⟩
  · cases averaged
    exact ⟨rfl, rfl⟩

/-- A fill keeps the stores consistent. -/
theorem FillMove.consistent
    (move :
      FillMove arithmetic adapter symbol side quantity price reduceOnly
        filled)
    (consistent : adapter.Consistent) :
    filled.Consistent := by
  have positionSymbol : ∀ {other position},
      filled.positions.get? other = some position →
        position.symbol = other := by
    intro other position found
    by_cases same : other = symbol
    · subst same
      cases move with
      | ignored _ _ _ =>
          exact consistent.positionSymbol found
      | opened _ _ _ =>
          simp only [OrderedDict.get?_set, ↓reduceIte,
            Option.some.injEq] at found
          rw [← found]
      | closed _ _ _ _ _ _ _ _ _ _ _ _ =>
          simp [OrderedDict.get?_erase] at found
      | kept _ old _ _ _ _ held _ _ averaged =>
          simp only [OrderedDict.get?_modify, ↓reduceIte, held,
            Option.map_some, Option.some.injEq] at found
          rw [← found, (filledWith_symbol averaged).1]
          exact consistent.positionSymbol held
    · rw [move.position_other same] at found
      exact consistent.positionSymbol found
  rw [move.withBooks]
  exact ⟨consistent.numbered, consistent.upperSymbol,
    consistent.mappedStored, positionSymbol, consistent.entryStored⟩

end Moves

/-- A fill that does not close a position, over exact arithmetic. -/
theorem filledWith_exact
    (position : MockPosition)
    (signedQty price : Decimal) :
    position.filledWith .exact signedQty price
        (position.positionAmt + signedQty) =
      .ok (position.filled signedQty price) := by
  unfold MockPosition.filledWith MockPosition.filled
  dsimp only
  split
  · simp only [DecimalArithmetic.magnitude_exact]
    rfl
  · rfl

/-- Over exact arithmetic a fill is the one without limits. -/
theorem applyFillWith_exact
    (adapter : MockBinanceAdapter)
    (symbol : String)
    (side : OrderSide)
    (quantity price : Decimal)
    (reduceOnly : Bool) :
    adapter.applyFillWith .exact symbol side quantity price reduceOnly =
      .ok (adapter.applyFill symbol side quantity price reduceOnly) := by
  have signed :
      side.signedWith .exact quantity = .ok (side.signed quantity) := by
    cases side with
    | buy => rfl
    | sell => exact congrArg Except.ok (zero_sub quantity)
  simp only [applyFillWith, signed, bind, Except.bind]
  cases held : adapter.positions.get? symbol with
  | none =>
      rw [applyFill_flat _ _ _ _ _ _ held]
      cases reduceOnly <;> rfl
  | some position =>
      have added :
          DecimalArithmetic.exact.add position.positionAmt
              (side.signed quantity) =
            .ok (position.positionAmt + side.signed quantity) := rfl
      simp only [added]
      by_cases closes : position.positionAmt + side.signed quantity = 0
      · rw [applyFill_closed _ _ _ _ _ _ held closes, if_pos closes]
        rfl
      · rw [applyFill_kept _ _ _ _ _ _ held closes, if_neg closes,
          filledWith_exact]
        have sameChange :
            (adapter.positions.modify symbol fun _ =>
                position.filled (side.signed quantity) price) =
              adapter.positions.modify symbol fun stored =>
                stored.filled (side.signed quantity) price := by
          apply OrderedDict.modify_congr
          intro stored isStored
          rw [held, Option.some.injEq] at isStored
          rw [isStored]
        simp only [sameChange]

/-- Over exact arithmetic the unrealized result is the one without limits. -/
theorem getUnrealizedPnlWith_exact
    (adapter : MockBinanceAdapter)
    (symbol : Option String) :
    adapter.getUnrealizedPnlWith .exact symbol =
      .ok (adapter.getUnrealizedPnl symbol) := by
  have added :
      adapter.addUnrealizedWith .exact =
        fun total position => pure (if position.positionAmt = 0 then
            total
          else
            total + (adapter.getMarkPrice position.symbol -
              position.entryPrice) * position.positionAmt) := by
    funext total position
    unfold addUnrealizedWith
    split <;> rfl
  rw [getUnrealizedPnlWith, added]
  exact List.foldlM_pure

section Steps

variable {arithmetic : DecimalArithmetic}
variable {adapter : MockBinanceAdapter}
variable {op : MockOp}

/-- A call that fills nothing does not compute. -/
theorem stepWith_unfilled
    (unfilled : adapter.filledOrder? op = none) :
    adapter.stepWith arithmetic op =
      ((adapter.step op).1, .ok (adapter.step op).2) := by
  cases op with
  | placeOrder request now =>
      simp only [stepWith, step, placeOrderWith, placeOrder]
      cases known : adapter.clientToOrder.get? request.clientOrderId with
      | some orderId =>
          dsimp only
          cases adapter.orders.get? orderId <;> rfl
      | none =>
          have notMarket : request.isMarket = false := by
            simpa [filledOrder?, known] using unfilled
          simp only [notMarket]
          rfl
  | cancelOrder query now => rfl
  | placeStop request now => rfl
  | replaceStop replacement now => rfl
  | cancelProtection query now => rfl
  | setMarkPrice symbol price => rfl

/-- A call that fills an order returns it if the fill does not raise. -/
theorem stepWith_filled
    {request : OrderRequest}
    {filled : MockBinanceAdapter}
    {now : Int}
    (fills : adapter.filledOrder? (.placeOrder request now) = some request)
    (computes :
      (adapter.record (adapter.orderOf request now)).applyFillWith arithmetic
          request.storedSymbol request.side request.quantity
          (adapter.fillPrice request) request.reduceOnly = .ok filled) :
    adapter.stepWith arithmetic (.placeOrder request now) =
      (filled, .ok (.order (.ok (adapter.orderOf request now)))) := by
  have fresh :
      adapter.clientToOrder.get? request.clientOrderId = none ∧
        request.isMarket = true := by
    simpa [filledOrder?] using fills
  have stored :
      upperText request.symbol = request.storedSymbol := rfl
  simp only [stepWith, placeOrderWith, fresh.1, fresh.2, ↓reduceIte, stored,
    computes]
  rfl

/-- A call that fills an order has stored it if the fill raises. -/
theorem stepWith_raised
    {request : OrderRequest}
    {signal : DecimalSignal}
    {now : Int}
    (fills : adapter.filledOrder? (.placeOrder request now) = some request)
    (raises :
      (adapter.record (adapter.orderOf request now)).applyFillWith arithmetic
          request.storedSymbol request.side request.quantity
          (adapter.fillPrice request) request.reduceOnly = .error signal) :
    adapter.stepWith arithmetic (.placeOrder request now) =
      (adapter.record (adapter.orderOf request now), .error signal) := by
  have fresh :
      adapter.clientToOrder.get? request.clientOrderId = none ∧
        request.isMarket = true := by
    simpa [filledOrder?] using fills
  have stored :
      upperText request.symbol = request.storedSymbol := rfl
  simp only [stepWith, placeOrderWith, fresh.1, fresh.2, ↓reduceIte, stored,
    raises]
  rfl

/-- A call that fills an order stores it and then makes one of the moves, or
none if the fill raises. -/
theorem stepWith_fills
    {request : OrderRequest}
    (fills : adapter.filledOrder? op = some request) :
    ∃ now, op = .placeOrder request now ∧
      ((adapter.stepWith arithmetic op).1 =
          adapter.record (adapter.orderOf request now) ∨
        FillMove arithmetic (adapter.record (adapter.orderOf request now))
          request.storedSymbol request.side request.quantity
          (adapter.fillPrice request) request.reduceOnly
          (adapter.stepWith arithmetic op).1) := by
  obtain ⟨now, isOrder, _⟩ := step_filled fills
  subst isOrder
  refine ⟨now, rfl, ?_⟩
  cases computed :
      (adapter.record (adapter.orderOf request now)).applyFillWith arithmetic
        request.storedSymbol request.side request.quantity
        (adapter.fillPrice request) request.reduceOnly with
  | error signal =>
      rw [stepWith_raised fills computed]
      exact Or.inl rfl
  | ok filled =>
      rw [stepWith_filled fills computed]
      exact Or.inr (applyFillWith_eq_ok_iff.mp computed)

/-- Every call keeps the stores consistent. -/
theorem Consistent.stepWith
    (consistent : adapter.Consistent)
    (op : MockOp) :
    (adapter.stepWith arithmetic op).1.Consistent := by
  cases filled : adapter.filledOrder? op with
  | none =>
      rw [stepWith_unfilled filled]
      exact consistent.step op
  | some request =>
      obtain ⟨now, _, stored | move⟩ :=
        @stepWith_fills arithmetic adapter op request filled
      · rw [stored]
        exact consistent.record rfl ⟨request.symbol, rfl⟩
      · exact move.consistent (consistent.record rfl ⟨request.symbol, rfl⟩)

/-- Over exact arithmetic a call is the one without limits. -/
theorem stepWith_exact (adapter : MockBinanceAdapter) (op : MockOp) :
    adapter.stepWith .exact op =
      ((adapter.step op).1, .ok (adapter.step op).2) := by
  cases filled : adapter.filledOrder? op with
  | none =>
      exact stepWith_unfilled filled
  | some request =>
      obtain ⟨now, isOrder, stepped⟩ := step_filled filled
      subst isOrder
      rw [stepWith_filled filled (applyFillWith_exact _ _ _ _ _ _), stepped]
      have fresh :
          adapter.clientToOrder.get? request.clientOrderId = none := by
        simp only [filledOrder?, Option.ite_none_right_eq_some] at filled
        exact filled.1.1
      simp only [step, placeOrder_fresh fresh]

end Steps

/-- The adapter with other positions and another realized result. -/
def withBooks
    (adapter : MockBinanceAdapter)
    (positions : OrderedDict String MockPosition)
    (realizedPnl : Decimal) : MockBinanceAdapter :=
  { adapter with
    positions := positions
    realizedPnl := realizedPnl }

section Books

variable (adapter : MockBinanceAdapter)
variable (positions : OrderedDict String MockPosition)
variable (realizedPnl : Decimal)

/-- What a call fills does not depend on the books. -/
theorem filledOrder?_withBooks (op : MockOp) :
    (adapter.withBooks positions realizedPnl).filledOrder? op =
      adapter.filledOrder? op := by
  cases op <;> rfl

/-- A call that fills nothing does not look at the books. -/
theorem step_withBooks
    {op : MockOp}
    (unfilled : adapter.filledOrder? op = none) :
    (adapter.withBooks positions realizedPnl).step op =
      ((adapter.step op).1.withBooks positions realizedPnl,
        (adapter.step op).2) := by
  cases op with
  | placeOrder request now =>
      have sameIds :
          (adapter.withBooks positions realizedPnl).clientToOrder =
            adapter.clientToOrder := rfl
      have sameOrders :
          (adapter.withBooks positions realizedPnl).orders =
            adapter.orders := rfl
      simp only [step, placeOrder, sameIds, sameOrders]
      cases known : adapter.clientToOrder.get? request.clientOrderId with
      | some orderId =>
          dsimp only
          cases adapter.orders.get? orderId <;> rfl
      | none =>
          have notMarket : request.isMarket = false := by
            simpa [filledOrder?, known] using unfilled
          simp only [notMarket]
          rfl
  | cancelOrder query now =>
      have sameResolved :
          (adapter.withBooks positions realizedPnl).resolve? query =
            adapter.resolve? query := rfl
      simp only [step, cancelOrder, sameResolved]
      cases adapter.resolve? query <;> rfl
  | placeStop request now => rfl
  | replaceStop replacement now => rfl
  | cancelProtection query now =>
      have sameResolved :
          ((adapter.withBooks positions realizedPnl).unprotect
              (upperText query.symbol)).resolve? query =
            (adapter.unprotect (upperText query.symbol)).resolve? query :=
        rfl
      simp only [step, cancelProtection, cancelOrder, sameResolved]
      split
      · cases (adapter.unprotect (upperText query.symbol)).resolve? query <;>
          rfl
      · rfl
  | setMarkPrice symbol price => rfl

end Books

end MockBinanceAdapter

/-- Every reachable state is consistent. -/
theorem DecimalReachable.consistent
    {adapter : MockBinanceAdapter}
    (reachable : DecimalReachable adapter) :
    adapter.Consistent := by
  obtain ⟨defaultMark, reached⟩ := reachable
  apply reached.invariant MockBinanceAdapter.Consistent
  · exact .create defaultMark
  · intro state op consistent _
    exact consistent.stepWith op

section SignedQuantities

/-- A signed quantity in the default context, where a sell may round. -/
def OrderSide.roundedSigned (side : OrderSide) (quantity : Decimal) :
    Decimal :=
  match side with
  | .buy => quantity
  | .sell => defaultContext.rounded (-quantity)

/-- The negated quantity of a sell does not overflow. -/
def OrderSide.SignInRange (side : OrderSide) (quantity : Decimal) : Prop :=
  side = .sell → InRange (-quantity)

theorem OrderSide.signedWith_eq_ok_iff
    {side : OrderSide}
    {quantity signedQty : Decimal} :
    side.signedWith contextArithmetic quantity = .ok signedQty ↔
      side.SignInRange quantity ∧ side.roundedSigned quantity = signedQty := by
  cases side with
  | buy =>
      simp [signedWith, SignInRange, roundedSigned]
  | sell =>
      change defaultContext.finalize (0 - quantity) = .ok signedQty ↔ _
      rw [zero_sub, finalize_eq_ok_iff]
      simp [SignInRange, roundedSigned]

/-- A size in the default context. -/
theorem magnitude_eq_ok_iff {number size : Decimal} :
    contextArithmetic.magnitude number = .ok size ↔
      InRange |number| ∧ defaultContext.rounded |number| = size := by
  unfold DecimalArithmetic.magnitude
  split
  · next negative =>
      rw [abs_of_neg negative, ← zero_sub]
      exact finalize_eq_ok_iff
  · next nonneg =>
      rw [abs_of_nonneg (not_lt.mp nonneg)]
      change defaultContext.finalize (0 + number) = .ok size ↔ _
      rw [zero_add, finalize_eq_ok_iff]

end SignedQuantities

end SafeSignalTrader
