import SafeSignalTrader.MockDecimalFills

/-!
# Isolation of symbols

What a call with one symbol leaves alone of another symbol.  Orders of all
symbols share one store and are addressed by bare ids, and all symbols share
one realized result, so a call can reach across; the exact conditions under
which it does are stated here.
-/

namespace SafeSignalTrader

open DecimalContext
open PythonText

/--
A fill closes a position in the default context, nothing overflows, and the
result of the position, rounded at each step, moves the realized result.
-/
def MockPosition.BooksResult
    (position : MockPosition)
    (side : OrderSide)
    (quantity price realizedPnl : Decimal) : Prop :=
  let difference := price - position.entryPrice
  let result := defaultContext.rounded difference * position.positionAmt
  let booked := realizedPnl + defaultContext.rounded result
  side.SignInRange quantity ∧
    defaultContext.rounded
        (position.positionAmt + side.roundedSigned quantity) = 0 ∧
      InRange difference ∧ InRange result ∧ InRange booked ∧
        defaultContext.rounded booked ≠ realizedPnl

namespace MockBinanceAdapter

/-- The protection record of a symbol. -/
def protectionOf (adapter : MockBinanceAdapter) (symbol : String) :
    Option MockOrder :=
  (adapter.protections.get? (upperText symbol)).bind adapter.orders.get?

/-- Everything the adapter holds of a symbol is as before. -/
structure Untouched
    (before after : MockBinanceAdapter)
    (other : String) : Prop where
  orders :
    ∀ orderId order, order.symbol = upperText other →
      (before.orders.get? orderId = some order ↔
        after.orders.get? orderId = some order)
  position :
    after.positions.get? (upperText other) =
      before.positions.get? (upperText other)
  protection : after.protectionOf other = before.protectionOf other
  markPrice : after.getMarkPrice other = before.getMarkPrice other
  realizedPnl :
    after.getRealizedPnl (some other) = before.getRealizedPnl (some other)

namespace Untouched

variable {first second third adapter : MockBinanceAdapter}
variable {other : String}

theorem refl (adapter : MockBinanceAdapter) (other : String) :
    adapter.Untouched adapter other :=
  ⟨fun _ _ _ => Iff.rfl, rfl, rfl, rfl, rfl⟩

theorem trans
    (earlier : first.Untouched second other)
    (later : second.Untouched third other) :
    first.Untouched third other where
  orders := fun orderId order onOther =>
    (earlier.orders orderId order onOther).trans
      (later.orders orderId order onOther)
  position := later.position.trans earlier.position
  protection := later.protection.trans earlier.protection
  markPrice := later.markPrice.trans earlier.markPrice
  realizedPnl := later.realizedPnl.trans earlier.realizedPnl

theorem symm
    (untouched : first.Untouched second other) :
    second.Untouched first other where
  orders := fun orderId order onOther =>
    (untouched.orders orderId order onOther).symm
  position := untouched.position.symm
  protection := untouched.protection.symm
  markPrice := untouched.markPrice.symm
  realizedPnl := untouched.realizedPnl.symm

/-- Recording an order of a symbol leaves the other symbols alone. -/
theorem record
    (consistent : adapter.Consistent)
    {order : MockOrder}
    (nextId : order.orderId = adapter.nextOrderId)
    (elsewhere : order.symbol ≠ upperText other) :
    adapter.Untouched (adapter.record order) other where
  orders := by
    intro orderId stored onOther
    simp only [MockBinanceAdapter.record, OrderedDict.get?_set, nextId]
    split
    · next isNext =>
        subst isNext
        rw [consistent.fresh]
        refine iff_of_false (by simp) ?_
        intro same
        cases same
        exact elsewhere onOther
    · exact Iff.rfl
  position := rfl
  protection := by
    unfold protectionOf
    have sameEntries :
        (adapter.record order).protections = adapter.protections :=
      rfl
    rw [sameEntries]
    cases entry : adapter.protections.get? (upperText other) with
    | none =>
        rfl
    | some orderId =>
        obtain ⟨stored, isStored, _⟩ := consistent.entryStored entry
        simp only [Option.bind_some, MockBinanceAdapter.record,
          OrderedDict.get?_set, nextId,
          if_neg (consistent.ne_next isStored)]
  markPrice := rfl
  realizedPnl := rfl

/-- Mutating an order that is not of the other symbol, or not at all. -/
theorem amend
    (consistent : adapter.Consistent)
    {canceledId : String}
    {change : MockOrder → MockOrder}
    (keepsSymbol : ∀ order, (change order).symbol = order.symbol)
    (harmless : ∀ order, adapter.orders.get? canceledId = some order →
      order.symbol = upperText other → change order = order) :
    adapter.Untouched
      { adapter with orders := adapter.orders.modify canceledId change }
      other where
  orders := by
    intro orderId order onOther
    simp only [OrderedDict.get?_modify]
    split
    · next same =>
        subst same
        cases stored : adapter.orders.get? orderId with
        | none =>
            simp
        | some old =>
            simp only [Option.map_some, Option.some.injEq]
            constructor
            · intro same
              subst same
              exact harmless old stored onOther
            · intro changed
              have oldOnOther : old.symbol = upperText other := by
                rw [← keepsSymbol old, changed]
                exact onOther
              rw [← changed]
              exact (harmless old stored oldOnOther).symm
    · exact Iff.rfl
  position := rfl
  protection := by
    unfold protectionOf
    dsimp only
    cases entry : adapter.protections.get? (upperText other) with
    | none =>
        rfl
    | some orderId =>
        obtain ⟨stored, isStored, onOther⟩ := consistent.entryStored entry
        simp only [Option.bind_some, OrderedDict.get?_modify, isStored,
          Option.map_some]
        split
        · next same =>
            subst same
            rw [harmless stored isStored onOther]
        · rfl
  markPrice := rfl
  realizedPnl := rfl

/-- Entries of a symbol are no matter of the other symbols. -/
theorem ofEntries
    {protections : OrderedDict String String}
    (sameEntry :
      protections.get? (upperText other) =
        adapter.protections.get? (upperText other)) :
    adapter.Untouched { adapter with protections := protections } other where
  orders := fun _ _ _ => Iff.rfl
  position := rfl
  protection := by
    unfold protectionOf
    dsimp only
    rw [sameEntry]
  markPrice := rfl
  realizedPnl := rfl

/-- A fill that books nothing leaves the other symbols alone. -/
theorem fill
    {filled : MockBinanceAdapter}
    {symbol : String}
    {side : OrderSide}
    {quantity price : Decimal}
    {reduceOnly : Bool}
    (move :
      FillMove contextArithmetic adapter symbol side quantity price reduceOnly
        filled)
    (elsewhere : upperText other ≠ symbol)
    (booksNothing : filled.realizedPnl = adapter.realizedPnl) :
    adapter.Untouched filled other := by
  have position := move.position_other elsewhere
  rw [move.withBooks]
  exact ⟨fun _ _ _ => Iff.rfl, position, rfl, rfl, booksNothing⟩

/-- A new stop of a symbol leaves the other symbols alone. -/
theorem placeStop
    (consistent : adapter.Consistent)
    (request : StopRequest)
    (now : Int)
    (elsewhere : upperText other ≠ upperText request.symbol) :
    adapter.Untouched (adapter.placeStop request now).1 other := by
  have recorded :
      adapter.Untouched (adapter.record (adapter.stopOf request now)) other :=
    .record consistent rfl (Ne.symm elsewhere)
  refine recorded.trans (.ofEntries ?_)
  exact (OrderedDict.get?_set _ _ _ _).trans (if_neg elsewhere)

end Untouched

/-- The arguments on which a call reaches across to another symbol. -/
def TouchesOthers (adapter : MockBinanceAdapter) : MockOp → Prop
  | .placeOrder request now =>
      adapter.filledOrder? (.placeOrder request now) = some request ∧
        ∃ position,
          adapter.positions.get? request.storedSymbol = some position ∧
            position.BooksResult request.side request.quantity
              (adapter.fillPrice request) adapter.realizedPnl
  | .cancelOrder query now =>
      ∃ orderId order,
        adapter.resolve? query = some (orderId, order) ∧
          order.symbol ≠ upperText query.symbol ∧
            ¬ (order.status = .canceled ∧ order.updateTime = now)
  | .placeStop _ _ => False
  | .replaceStop replacement _ =>
      ∃ order,
        adapter.orders.get? replacement.existingOrderId = some order ∧
          order.symbol ≠ upperText replacement.symbol ∧
            order.status ≠ .canceled
  | .cancelProtection query now =>
      ∃ orderId order,
        adapter.resolve? query = some (orderId, order) ∧
          order.symbol ≠ upperText query.symbol ∧
            ¬ (order.status = .canceled ∧ order.updateTime = now)
  | .setMarkPrice _ _ => False

section Isolation

variable {adapter : MockBinanceAdapter}

/-- There is always another symbol. -/
theorem exists_other_symbol (symbol : String) :
    ∃ other, upperText other ≠ upperText symbol := by
  by_cases same : upperText "A" = upperText symbol
  · refine ⟨"B", ?_⟩
    rw [← same]
    decide +kernel
  · exact ⟨"A", same⟩

/-- Zero is in the range of the default context. -/
theorem inRange_of_vanishing
    {number : Decimal}
    (vanishes : defaultContext.rounded number = 0) :
    InRange number := by
  rw [InRange, vanishes, abs_zero]
  exact zpow_pos (by norm_num) _

/-- A fill that moves the realized result closes a position with a result. -/
theorem FillMove.books
    {filled : MockBinanceAdapter}
    {symbol : String}
    {side : OrderSide}
    {quantity price : Decimal}
    {reduceOnly : Bool}
    (move :
      FillMove contextArithmetic adapter symbol side quantity price reduceOnly
        filled)
    (booksSomething : filled.realizedPnl ≠ adapter.realizedPnl) :
    ∃ position,
      adapter.positions.get? symbol = some position ∧
        position.BooksResult side quantity price adapter.realizedPnl := by
  cases move with
  | ignored _ _ _ => exact absurd rfl booksSomething
  | opened _ _ _ => exact absurd rfl booksSomething
  | kept _ _ _ _ _ _ _ _ _ _ => exact absurd rfl booksSomething
  | closed _ position _ _ _ _ signed held closes moved multiplied booked =>
      obtain ⟨signInRange, rfl⟩ := OrderSide.signedWith_eq_ok_iff.mp signed
      obtain ⟨_, vanishes⟩ := finalize_eq_ok_iff.mp closes
      obtain ⟨moves, rfl⟩ := finalize_eq_ok_iff.mp moved
      obtain ⟨multiplies, rfl⟩ := finalize_eq_ok_iff.mp multiplied
      obtain ⟨adds, rfl⟩ := finalize_eq_ok_iff.mp booked
      exact ⟨position, held, signInRange, vanishes, moves, multiplies, adds,
        booksSomething⟩

/-- A filled order books nothing unless it closes a position with a result. -/
theorem stepWith_realizedPnl_iff
    {request : OrderRequest}
    {now : Int}
    (fills : adapter.filledOrder? (.placeOrder request now) = some request) :
    (adapter.stepWith contextArithmetic
          (.placeOrder request now)).1.realizedPnl = adapter.realizedPnl ↔
      ¬ ∃ position,
        adapter.positions.get? request.storedSymbol = some position ∧
          position.BooksResult request.side request.quantity
            (adapter.fillPrice request) adapter.realizedPnl := by
  constructor
  · intro booksNothing books
    obtain ⟨position, held, signInRange, closes, moves, multiplies, adds,
      booksSomething⟩ := books
    have move :
        FillMove contextArithmetic
          (adapter.record (adapter.orderOf request now))
          request.storedSymbol request.side request.quantity
          (adapter.fillPrice request) request.reduceOnly _ :=
      .closed request.reduceOnly position _ _ _ _
        (OrderSide.signedWith_eq_ok_iff.mpr ⟨signInRange, rfl⟩) held
        (finalize_eq_ok_iff.mpr ⟨inRange_of_vanishing closes, closes⟩)
        (finalize_eq_ok_iff.mpr ⟨moves, rfl⟩)
        (finalize_eq_ok_iff.mpr ⟨multiplies, rfl⟩)
        (finalize_eq_ok_iff.mpr ⟨adds, rfl⟩)
    rw [stepWith_filled fills (applyFillWith_eq_ok_iff.mpr move)]
      at booksNothing
    exact booksSomething booksNothing
  · intro booksNothing
    obtain ⟨time, isOrder, stored | move⟩ :=
      @stepWith_fills contextArithmetic adapter _ request fills
    · rw [stored]
      rfl
    · cases isOrder
      by_contra booksSomething
      exact booksNothing (move.books booksSomething)

/-- An order leaves the other symbols alone unless it books a result. -/
theorem placeOrder_isolated_iff
    (consistent : adapter.Consistent)
    (request : OrderRequest)
    (now : Int) :
    (∀ other, upperText other ≠ upperText request.symbol →
        adapter.Untouched
          (adapter.stepWith contextArithmetic (.placeOrder request now)).1
          other) ↔
      ¬ adapter.TouchesOthers (.placeOrder request now) := by
  have recorded (other : String)
      (different : upperText other ≠ upperText request.symbol) :
      adapter.Untouched (adapter.record (adapter.orderOf request now))
        other :=
    .record consistent rfl (Ne.symm different)
  cases filled : adapter.filledOrder? (.placeOrder request now) with
  | none =>
      refine iff_of_true ?_ ?_
      · intro other different
        rw [stepWith_unfilled filled]
        simp only [step]
        cases known :
            adapter.clientToOrder.get? request.clientOrderId with
        | some orderId =>
            rw [placeOrder_known known]
            exact .refl adapter other
        | none =>
            have notMarket : request.isMarket = false := by
              simpa [filledOrder?, known] using filled
            rw [placeOrder_fresh known, notMarket]
            exact recorded other different
      · intro touches
        rw [TouchesOthers, filled] at touches
        cases touches.1
  | some filledRequest =>
      obtain ⟨time, isOrder, _⟩ := step_filled filled
      cases isOrder
      have touchesIff :
          adapter.TouchesOthers (.placeOrder request now) ↔
            ∃ position,
              adapter.positions.get? request.storedSymbol = some position ∧
                position.BooksResult request.side request.quantity
                  (adapter.fillPrice request) adapter.realizedPnl := by
        rw [TouchesOthers, filled]
        exact and_iff_right rfl
      rw [touchesIff, ← stepWith_realizedPnl_iff filled]
      constructor
      · intro isolated
        obtain ⟨other, different⟩ := exists_other_symbol request.symbol
        exact (isolated other different).realizedPnl
      · intro booksNothing other different
        refine (recorded other different).trans ?_
        obtain ⟨_, isOrder, stored | move⟩ :=
          @stepWith_fills contextArithmetic adapter _ request filled
        · cases isOrder
          rw [stored]
          exact .refl _ other
        · cases isOrder
          exact .fill move different booksNothing

/-- Mutating an order leaves other symbols alone unless it changes theirs. -/
theorem modify_isolated_iff
    (consistent : adapter.Consistent)
    {orderId : String}
    {order : MockOrder}
    (stored : adapter.orders.get? orderId = some order)
    {change : MockOrder → MockOrder}
    (keepsSymbol : ∀ order, (change order).symbol = order.symbol)
    (symbol : String) :
    (∀ other, upperText other ≠ symbol →
        adapter.Untouched
          { adapter with orders := adapter.orders.modify orderId change }
          other) ↔
      (order.symbol ≠ symbol → change order = order) := by
  constructor
  · intro isolated elsewhere
    obtain ⟨other, onOther⟩ := consistent.upperSymbol stored
    rw [onOther] at elsewhere
    have kept :=
      ((isolated other elsewhere).orders orderId order onOther).mp stored
    rw [OrderedDict.get?_modify, if_pos rfl, stored] at kept
    exact Option.some.inj kept
  · intro harmless other elsewhere
    apply Untouched.amend consistent keepsSymbol
    intro found isStored onOther
    rw [stored] at isStored
    cases isStored
    apply harmless
    rw [onOther]
    exact elsewhere

/-- Marking an order as canceled changes it unless it was so marked. -/
theorem markCanceled_isolated_iff
    (consistent : adapter.Consistent)
    {orderId : String}
    {order : MockOrder}
    (stored : adapter.orders.get? orderId = some order)
    (now : Int)
    (symbol : String) :
    (∀ other, upperText other ≠ symbol →
        adapter.Untouched (adapter.markCanceled orderId now) other) ↔
      ¬ (order.symbol ≠ symbol ∧
        ¬ (order.status = .canceled ∧ order.updateTime = now)) := by
  refine (modify_isolated_iff consistent stored (by intro _; rfl)
    symbol).trans ?_
  rw [not_and, not_not]
  apply imp_congr Iff.rfl
  constructor
  · intro same
    rw [← same]
    exact ⟨rfl, rfl⟩
  · intro marked
    cases order
    obtain ⟨isCanceled, isNow⟩ := marked
    cases isCanceled
    cases isNow
    rfl

/-- What a query resolves to decides whether canceling reaches across. -/
theorem resolve_isolated_iff
    (consistent : adapter.Consistent)
    (query : OrderQuery)
    (now : Int)
    {canceled : MockBinanceAdapter}
    (cancels : ∀ orderId order,
      adapter.resolve? query = some (orderId, order) →
        canceled = adapter.markCanceled orderId now)
    (idles : adapter.resolve? query = none → canceled = adapter) :
    (∀ other, upperText other ≠ upperText query.symbol →
        adapter.Untouched canceled other) ↔
      ¬ adapter.TouchesOthers (.cancelOrder query now) := by
  cases resolved : adapter.resolve? query with
  | none =>
      rw [idles resolved]
      refine iff_of_true (fun other _ => .refl adapter other) ?_
      intro touches
      obtain ⟨orderId, order, found, _⟩ := touches
      rw [resolved] at found
      cases found
  | some entry =>
      obtain ⟨orderId, order⟩ := entry
      rw [cancels orderId order resolved,
        markCanceled_isolated_iff consistent
          (resolve?_eq_some_iff.mp resolved).2 now, not_iff_not]
      constructor
      · intro reaches
        exact ⟨orderId, order, resolved, reaches⟩
      · intro touches
        obtain ⟨otherId, other, found, reaches⟩ := touches
        rw [resolved] at found
        cases found
        exact reaches

/-- Canceling an order leaves the other symbols alone, unless it is theirs. -/
theorem cancelOrder_isolated_iff
    (consistent : adapter.Consistent)
    (query : OrderQuery)
    (now : Int) :
    (∀ other, upperText other ≠ upperText query.symbol →
        adapter.Untouched (adapter.cancelOrder query now).1 other) ↔
      ¬ adapter.TouchesOthers (.cancelOrder query now) := by
  apply resolve_isolated_iff consistent
  · intro orderId order resolved
    rw [cancelOrder_fst, resolved]
  · intro unresolved
    rw [cancelOrder_fst, unresolved]

/-- Canceling a protection reaches across as canceling the order does. -/
theorem cancelProtection_isolated_iff
    (consistent : adapter.Consistent)
    (query : OrderQuery)
    (now : Int) :
    (∀ other, upperText other ≠ upperText query.symbol →
        adapter.Untouched (adapter.cancelProtection query now).1 other) ↔
      ¬ adapter.TouchesOthers (.cancelProtection query now) := by
  have dropped (other : String)
      (elsewhere : upperText other ≠ upperText query.symbol) :
      adapter.Untouched (adapter.unprotect (upperText query.symbol))
        other := by
    apply Untouched.ofEntries
    rw [OrderedDict.get?_erase, if_neg elsewhere]
  have isolatedIff :
      (∀ other, upperText other ≠ upperText query.symbol →
          (adapter.unprotect (upperText query.symbol)).Untouched
            (adapter.cancelProtection query now).1 other) ↔
        ¬ (adapter.unprotect (upperText query.symbol)).TouchesOthers
          (.cancelOrder query now) := by
    have sameResolution :
        (adapter.unprotect (upperText query.symbol)).resolve? query =
          adapter.resolve? query :=
      rfl
    apply resolve_isolated_iff (consistent.unprotect _)
    · intro orderId order resolved
      rw [sameResolution] at resolved
      rw [cancelProtection_fst, resolved]
    · intro unresolved
      rw [sameResolution] at unresolved
      rw [cancelProtection_fst, unresolved]
  refine Iff.trans ?_ isolatedIff
  constructor
  · intro isolated other elsewhere
    exact (dropped other elsewhere).symm.trans (isolated other elsewhere)
  · intro isolated other elsewhere
    exact (dropped other elsewhere).trans (isolated other elsewhere)

/-- Retiring an order leaves the other symbols alone, unless it is theirs. -/
theorem retire_isolated_iff
    (consistent : adapter.Consistent)
    (replacement : StopReplacement)
    (now : Int) :
    (∀ other, upperText other ≠ upperText replacement.symbol →
        adapter.Untouched (adapter.retire replacement.existingOrderId)
          other) ↔
      ¬ adapter.TouchesOthers (.replaceStop replacement now) := by
  have retired :
      adapter.retire replacement.existingOrderId =
        { adapter with
          orders := adapter.orders.modify replacement.existingOrderId
            fun order => { order with status := .canceled } } :=
    rfl
  cases stored : adapter.orders.get? replacement.existingOrderId with
  | none =>
      refine iff_of_true ?_ ?_
      · intro other _
        apply Untouched.amend consistent
        · intro order
          rfl
        · intro order found
          rw [stored] at found
          cases found
      · intro touches
        obtain ⟨order, found, _⟩ := touches
        rw [stored] at found
        cases found
  | some order =>
      rw [retired]
      refine (modify_isolated_iff consistent stored (by intro _; rfl)
        _).trans ?_
      constructor
      · intro harmless touches
        obtain ⟨other, found, elsewhere, wasOpen⟩ := touches
        rw [stored] at found
        cases found
        apply wasOpen
        rw [← harmless elsewhere]
      · intro untouching elsewhere
        by_contra changed
        apply untouching
        refine ⟨order, stored, elsewhere, ?_⟩
        intro wasCanceled
        apply changed
        cases order
        cases wasCanceled
        rfl

/-- Replacing a stop leaves the other symbols alone, unless it is theirs. -/
theorem replaceStop_isolated_iff
    (consistent : adapter.Consistent)
    (replacement : StopReplacement)
    (now : Int) :
    (∀ other, upperText other ≠ upperText replacement.symbol →
        adapter.Untouched (adapter.replaceStop replacement now).1 other) ↔
      ¬ adapter.TouchesOthers (.replaceStop replacement now) := by
  have retired :
      (adapter.retire replacement.existingOrderId).Consistent :=
    consistent.amend _ fun _ => rfl
  have placed (other : String)
      (elsewhere : upperText other ≠ upperText replacement.symbol) :
      (adapter.retire replacement.existingOrderId).Untouched
        (adapter.replaceStop replacement now).1 other :=
    .placeStop retired _ now elsewhere
  rw [← retire_isolated_iff consistent replacement now]
  constructor
  · intro isolated other elsewhere
    exact (isolated other elsewhere).trans (placed other elsewhere).symm
  · intro isolated other elsewhere
    exact (isolated other elsewhere).trans (placed other elsewhere)

end Isolation

end MockBinanceAdapter

/--
In every reachable state, a call with one symbol leaves everything of all other
symbols alone exactly if it does not cancel an open order of another symbol,
and is no order that books a result by closing a position.
-/
theorem symbolIsolation_iff
    (adapter : MockBinanceAdapter)
    (reachable : DecimalReachable adapter)
    (op : MockOp) :
    (∀ other, upperText other ≠ upperText op.symbol →
        adapter.Untouched (adapter.stepWith contextArithmetic op).1 other) ↔
      ¬ adapter.TouchesOthers op := by
  have consistent := reachable.consistent
  cases op with
  | placeOrder request now =>
      exact MockBinanceAdapter.placeOrder_isolated_iff consistent request now
  | cancelOrder query now =>
      exact MockBinanceAdapter.cancelOrder_isolated_iff consistent query now
  | placeStop request now =>
      refine iff_of_true ?_ (fun touches => touches)
      intro other elsewhere
      exact .placeStop consistent request now elsewhere
  | replaceStop replacement now =>
      exact MockBinanceAdapter.replaceStop_isolated_iff consistent
        replacement now
  | cancelProtection query now =>
      exact MockBinanceAdapter.cancelProtection_isolated_iff consistent query
        now
  | setMarkPrice symbol price =>
      refine iff_of_true ?_ (fun touches => touches)
      intro other elsewhere
      refine ⟨fun _ _ _ => Iff.rfl, rfl, rfl, ?_, rfl⟩
      simp only [MockBinanceAdapter.stepWith, MockBinanceAdapter.step,
        MockBinanceAdapter.setMarkPrice, MockBinanceAdapter.getMarkPrice,
        OrderedDict.get?_set]
      exact congrArg (Option.getD · _) (if_neg elsewhere)

/-- Opening a first position leaves the other symbols alone. -/
theorem symbolIsolation_entry :
    (MockBinanceAdapter.create 100).Untouched
      ((MockBinanceAdapter.create 100).stepWith contextArithmetic
        (.placeOrder (btcOrder .buy 1 "entry" false) 0)).1 "ETHUSDT" :=
  (symbolIsolation_iff (.create 100) (.of_run 100 [])
    (.placeOrder (btcOrder .buy 1 "entry" false) 0)).mpr
      (by
        intro touches
        obtain ⟨_, position, held, _⟩ := touches
        cases held)
      "ETHUSDT" (by decide +kernel)

/-- A cancellation that names one symbol cancels an order of another. -/
theorem foreign_order_canceled :
    ¬ ∀ adapter, DecimalReachable adapter →
      ∀ (op : MockOp) (other : String),
        upperText other ≠ upperText op.symbol →
          adapter.Untouched (adapter.stepWith contextArithmetic op).1
            other := by
  intro isolated
  let ethOrder : OrderRequest :=
    { btcOrder .buy 1 "limit" false with
      symbol := "ETHUSDT"
      orderType := "LIMIT" }
  let adapter :=
    (decimalMachine contextArithmetic).final (.create 100)
      [.placeOrder ethOrder 0]
  let cancel : MockOp := .cancelOrder ⟨"BTCUSDT", some "1", none⟩ 1
  have untouched :
      adapter.Untouched (adapter.stepWith contextArithmetic cancel).1
        "ETHUSDT" :=
    isolated adapter (.of_run 100 [.placeOrder ethOrder 0]) cancel "ETHUSDT"
      (by decide +kernel)
  have before :
      (adapter.orders.get? "1").map
          (fun order => (order.symbol, order.status)) =
        some (upperText "ETHUSDT", .new) := by
    decide +kernel
  have after :
      ((adapter.stepWith contextArithmetic cancel).1.orders.get? "1").map
          MockOrder.status =
        some .canceled := by
    decide +kernel
  obtain ⟨order, stored, fields⟩ := Option.map_eq_some_iff.mp before
  have kept :=
    (untouched.orders "1" order (congrArg Prod.fst fields)).mp stored
  have stillNew : order.status = .new := congrArg Prod.snd fields
  rw [kept, Option.map_some, stillNew] at after
  cases after

end SafeSignalTrader
