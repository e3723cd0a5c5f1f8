import SafeSignalTrader.MockLedger
import SafeSignalTrader.MockReconciliation
import SafeSignalTrader.SplitRuns

/-!
# Trading symbol by symbol

All symbols share one exchange adapter.  As long as the calls on different
symbols use different client ids, the adapter trades each symbol as an adapter
would that sees the calls on that symbol alone.  In exact arithmetic the
results of the account are the sums of theirs.
-/

namespace SafeSignalTrader

open PythonText
open RunSemantics

namespace MockOp

/-- The symbol a call is stored under. -/
def storedSymbol (op : MockOp) : String :=
  upperText op.symbol

/-- No client id is submitted with two symbols. -/
def OwnIds (ops : List MockOp) : Prop :=
  ∀ first ∈ ops, ∀ second ∈ ops,
    first.submittedId?.isSome = true →
      first.submittedId? = second.submittedId? →
        first.storedSymbol = second.storedSymbol

instance decidableOwnIds : DecidablePred OwnIds :=
  fun _ => inferInstanceAs (Decidable (∀ _ ∈ _, ∀ _ ∈ _, _ → _ → _))

/-- The calls on one symbol. -/
def onSymbol (symbol : String) (ops : List MockOp) : List MockOp :=
  ops.filter fun op => op.storedSymbol = symbol

theorem OwnIds.sublist
    {fewer ops : List MockOp}
    (ownIds : OwnIds ops)
    (kept : fewer.Sublist ops) :
    OwnIds fewer :=
  fun first firstMember second secondMember =>
    ownIds first (kept.subset firstMember) second (kept.subset secondMember)

/-- The calls on its symbol know the id of a call if all calls do. -/
theorem OwnIds.mem_submittedIds_iff
    {past : List MockOp}
    {op : MockOp}
    {clientOrderId : String}
    (ownIds : OwnIds (past ++ [op]))
    (submits : op.submittedId? = some clientOrderId) :
    clientOrderId ∈ submittedIds past ↔
      clientOrderId ∈ submittedIds (onSymbol op.storedSymbol past) := by
  simp only [submittedIds, List.mem_filterMap, onSymbol, List.mem_filter,
    decide_eq_true_eq]
  constructor
  · intro submitted
    obtain ⟨earlier, member, submitsSame⟩ := submitted
    refine ⟨earlier, ⟨member, ?_⟩, submitsSame⟩
    exact ownIds earlier (List.mem_append_left _ member) op
      (List.mem_append_right _ (List.mem_singleton_self op))
      (by rw [submitsSame]; rfl) (submitsSame.trans submits.symm)
  · intro submitted
    obtain ⟨earlier, member, submitsSame⟩ := submitted
    exact ⟨earlier, member.1, submitsSame⟩

end MockOp

namespace MockBinanceAdapter

/-- Two adapters that hold the same of one symbol. -/
structure AlikeOn (symbol : String) (first second : MockBinanceAdapter) :
    Prop where
  position : first.positions.get? symbol = second.positions.get? symbol
  markPrice : first.markPrices.get? symbol = second.markPrices.get? symbol
  defaultMark : first.defaultMark = second.defaultMark

section Marks

variable (adapter : MockBinanceAdapter)

/-- Only setting a mark price changes the mark prices. -/
theorem markPrices_step (op : MockOp) :
    (adapter.step op).1.markPrices =
      match op with
      | .setMarkPrice symbol price =>
          adapter.markPrices.set (upperText symbol) price
      | _ => adapter.markPrices := by
  cases op with
  | placeOrder request now =>
      simp only [step]
      cases known : adapter.clientToOrder.get? request.clientOrderId with
      | some orderId =>
          rw [placeOrder_known known]
      | none =>
          rw [placeOrder_fresh known]
          dsimp only
          split
          · rw [applyFill_markPrices]
            rfl
          · rfl
  | cancelOrder query now =>
      simp only [step, cancelOrder_fst]
      split <;> rfl
  | placeStop request now => rfl
  | replaceStop replacement now => rfl
  | cancelProtection query now =>
      simp only [step, cancelProtection_fst]
      split <;> rfl
  | setMarkPrice symbol price => rfl

theorem defaultMark_step (op : MockOp) :
    (adapter.step op).1.defaultMark = adapter.defaultMark := by
  cases op with
  | placeOrder request now =>
      simp only [step]
      cases known : adapter.clientToOrder.get? request.clientOrderId with
      | some orderId =>
          rw [placeOrder_known known]
      | none =>
          rw [placeOrder_fresh known]
          dsimp only
          split
          · rw [applyFill_defaultMark]
            rfl
          · rfl
  | cancelOrder query now =>
      simp only [step, cancelOrder_fst]
      split <;> rfl
  | placeStop request now => rfl
  | replaceStop replacement now => rfl
  | cancelProtection query now =>
      simp only [step, cancelProtection_fst]
      split <;> rfl
  | setMarkPrice symbol price => rfl

end Marks

namespace AlikeOn

variable {symbol : String}
variable {whole part : MockBinanceAdapter}

/-- A fill moves the position and the result in the same way. -/
theorem applyFill
    (alike : AlikeOn symbol whole part)
    (side : OrderSide)
    (quantity price : Decimal)
    (reduceOnly : Bool) :
    (whole.applyFill symbol side quantity price
          reduceOnly).positions.get? symbol =
        (part.applyFill symbol side quantity price
          reduceOnly).positions.get? symbol ∧
      (whole.applyFill symbol side quantity price reduceOnly).realizedPnl -
          whole.realizedPnl =
        (part.applyFill symbol side quantity price reduceOnly).realizedPnl -
          part.realizedPnl := by
  cases held : whole.positions.get? symbol with
  | none =>
      have heldPart := alike.position.symm.trans held
      rw [applyFill_flat _ _ _ _ _ _ held,
        applyFill_flat _ _ _ _ _ _ heldPart]
      cases reduceOnly with
      | true => exact ⟨alike.position, by simp⟩
      | false => simp [OrderedDict.get?_set]
  | some position =>
      have heldPart := alike.position.symm.trans held
      by_cases closes : position.positionAmt + side.signed quantity = 0
      · rw [applyFill_closed _ _ _ _ _ _ held closes,
          applyFill_closed _ _ _ _ _ _ heldPart closes]
        simp [OrderedDict.get?_erase]
      · rw [applyFill_kept _ _ _ _ _ _ held closes,
          applyFill_kept _ _ _ _ _ _ heldPart closes]
        simp [OrderedDict.get?_modify, held, heldPart]

/-- Adapters that hold the same of a symbol fill an order at one price. -/
theorem fillPrice
    {request : OrderRequest}
    (alike : AlikeOn request.storedSymbol whole part) :
    whole.fillPrice request = part.fillPrice request := by
  have sameMark :
      whole.getMarkPrice (upperText request.symbol) =
        part.getMarkPrice (upperText request.symbol) := by
    have stored : upperText (upperText request.symbol) =
        request.storedSymbol :=
      upperText_upperText request.symbol
    rw [getMarkPrice, getMarkPrice, stored, alike.markPrice,
      alike.defaultMark]
  simp only [MockBinanceAdapter.fillPrice, sameMark]

/-- A call fills the same order in adapters that know its id alike. -/
theorem filledOrder?
    {op : MockOp}
    (known : ∀ clientOrderId, op.submittedId? = some clientOrderId →
      ((whole.clientToOrder.get? clientOrderId).isSome = true ↔
        (part.clientToOrder.get? clientOrderId).isSome = true)) :
    whole.filledOrder? op = part.filledOrder? op := by
  cases op with
  | placeOrder request now =>
      have sameTest := known request.clientOrderId rfl
      have unknown :
          whole.clientToOrder.get? request.clientOrderId = none ↔
            part.clientToOrder.get? request.clientOrderId = none := by
        rw [← Option.isNone_iff_eq_none, ← Option.isNone_iff_eq_none,
          ← Option.isSome_eq_false_iff, ← Option.isSome_eq_false_iff,
          ← Bool.not_eq_true, ← Bool.not_eq_true, sameTest]
      simp only [MockBinanceAdapter.filledOrder?, unknown]
  | cancelOrder query now => rfl
  | placeStop request now => rfl
  | replaceStop replacement now => rfl
  | cancelProtection query now => rfl
  | setMarkPrice symbol price => rfl

/-- A call on a symbol moves what is held of it in the same way. -/
theorem step
    {op : MockOp}
    (alike : AlikeOn op.storedSymbol whole part)
    (known : ∀ clientOrderId, op.submittedId? = some clientOrderId →
      ((whole.clientToOrder.get? clientOrderId).isSome = true ↔
        (part.clientToOrder.get? clientOrderId).isSome = true)) :
    AlikeOn op.storedSymbol (whole.step op).1 (part.step op).1 ∧
      (whole.step op).1.realizedPnl - whole.realizedPnl =
        (part.step op).1.realizedPnl - part.realizedPnl := by
  have marks :
      (whole.step op).1.markPrices.get? op.storedSymbol =
        (part.step op).1.markPrices.get? op.storedSymbol := by
    rw [markPrices_step, markPrices_step]
    cases op with
    | setMarkPrice symbol price =>
        simp [OrderedDict.get?_set, MockOp.storedSymbol, MockOp.symbol]
    | _ => exact alike.markPrice
  have defaults :
      (whole.step op).1.defaultMark = (part.step op).1.defaultMark := by
    rw [defaultMark_step, defaultMark_step, alike.defaultMark]
  have sameFill := filledOrder? known
  cases filled : whole.filledOrder? op with
  | none =>
      have filledPart := sameFill.symm.trans filled
      obtain ⟨positions, pnl⟩ := step_unfilled filled
      obtain ⟨partPositions, partPnl⟩ := step_unfilled filledPart
      refine ⟨⟨?_, marks, defaults⟩, ?_⟩
      · rw [positions, partPositions, alike.position]
      · rw [pnl, partPnl, sub_self, sub_self]
  | some request =>
      have filledPart := sameFill.symm.trans filled
      obtain ⟨now, isOrder, stepped⟩ := step_filled filled
      obtain ⟨partNow, samePlaced, partStepped⟩ := step_filled filledPart
      subst isOrder
      cases samePlaced
      have onSymbol : AlikeOn request.storedSymbol whole part := alike
      have recorded :
          AlikeOn request.storedSymbol
            (whole.record (whole.orderOf request now))
            (part.record (part.orderOf request now)) :=
        ⟨onSymbol.position, onSymbol.markPrice, onSymbol.defaultMark⟩
      obtain ⟨position, pnl⟩ :=
        recorded.applyFill request.side request.quantity
          (part.fillPrice request) request.reduceOnly
      refine ⟨⟨?_, marks, defaults⟩, ?_⟩
      · rw [stepped, partStepped, onSymbol.fillPrice]
        exact position
      · rw [stepped, partStepped, onSymbol.fillPrice]
        exact pnl

/-- A call on another symbol leaves what is held of a symbol. -/
theorem foreign
    {op : MockOp}
    (alike : AlikeOn symbol whole part)
    (other : symbol ≠ op.storedSymbol) :
    AlikeOn symbol (whole.step op).1 part := by
  refine ⟨?_, ?_, ?_⟩
  · rw [← alike.position]
    cases filled : whole.filledOrder? op with
    | none => rw [(step_unfilled filled).1]
    | some request =>
        obtain ⟨now, isOrder, stepped⟩ := step_filled filled
        subst isOrder
        have elsewhere : symbol ≠ request.storedSymbol := other
        rw [stepped, applyFill_position_other _ _ _ _ _ _ elsewhere]
        rfl
  · rw [← alike.markPrice, markPrices_step]
    cases op with
    | setMarkPrice changed price =>
        exact (OrderedDict.get?_set ..).trans (if_neg other)
    | _ => rfl
  · rw [defaultMark_step]
    exact alike.defaultMark

end AlikeOn

/-- What an adapter knows depends on which ids are used only. -/
theorem Knows.congr
    {adapter : MockBinanceAdapter}
    {used other : List String}
    (knows : adapter.Knows used)
    (same : ∀ clientOrderId, clientOrderId ∈ used ↔ clientOrderId ∈ other) :
    adapter.Knows other :=
  fun clientOrderId => (knows clientOrderId).trans (same clientOrderId)

/-- A call adds its id behind those of the calls before it. -/
theorem Knows.step_append
    {adapter : MockBinanceAdapter}
    {past : List MockOp}
    (knows : adapter.Knows (MockOp.submittedIds past))
    (op : MockOp) :
    (adapter.step op).1.Knows (MockOp.submittedIds (past ++ [op])) := by
  refine (knows.step op).congr ?_
  intro clientOrderId
  cases submitted : op.submittedId? <;>
    simp [MockOp.submittedIds, submitted, or_comm]

/-- The adapter split by symbol. -/
def symbolSplitting : Splitting mockMachine String where
  key := MockOp.storedSymbol
  premise := MockOp.OwnIds
  agrees := fun past symbol whole part =>
    AlikeOn symbol whole part ∧
      whole.Knows (MockOp.submittedIds past) ∧
        part.Knows (MockOp.submittedIds (MockOp.onSymbol symbol past))
  initialPart := fun past op ownIds =>
    ownIds.sublist (List.sublist_append_left past [op])
  own := by
    intro past op whole part ownIds agreed
    obtain ⟨alike, knows, partKnows⟩ := agreed
    have isLast :
        MockOp.onSymbol op.storedSymbol (past ++ [op]) =
          MockOp.onSymbol op.storedSymbol past ++ [op] := by
      simp [MockOp.onSymbol]
    refine ⟨(alike.step ?_).1, knows.step_append op, ?_⟩
    · intro clientOrderId submits
      rw [knows, partKnows]
      exact ownIds.mem_submittedIds_iff submits
    · rw [isLast]
      exact partKnows.step_append op
  foreign := by
    intro past op other whole part _ elsewhere agreed
    obtain ⟨alike, knows, partKnows⟩ := agreed
    have unlisted :
        MockOp.onSymbol other (past ++ [op]) =
          MockOp.onSymbol other past := by
      simp [MockOp.onSymbol, Ne.symm elsewhere]
    refine ⟨alike.foreign elsewhere, knows.step_append op, ?_⟩
    rw [unlisted]
    exact partKnows

/-- The realized result moves with what is kept of the symbol of a call. -/
def realizedMeasuring : symbolSplitting.Measuring Decimal where
  measure := realizedPnl
  contributes := by
    intro past op whole part ownIds agreed
    obtain ⟨alike, knows, partKnows⟩ := agreed
    refine (alike.step ?_).2
    intro clientOrderId submits
    rw [knows, partKnows]
    exact ownIds.mem_submittedIds_iff submits

section Runs

open scoped BigOperators

variable (defaultMark : Decimal)
variable {ops : List MockOp}

theorem symbolSplitting_initially (symbol : String) :
    symbolSplitting.agrees [] symbol (create defaultMark)
      (create defaultMark) :=
  ⟨⟨rfl, rfl, rfl⟩, knows_final defaultMark [], knows_final defaultMark []⟩

/-- A run leaves of a symbol what the calls on that symbol leave. -/
theorem alikeOn_final
    (ownIds : MockOp.OwnIds ops)
    (symbol : String) :
    AlikeOn symbol (mockMachine.final (create defaultMark) ops)
      (mockMachine.final (create defaultMark)
        (MockOp.onSymbol symbol ops)) :=
  (symbolSplitting.agrees_run (symbolSplitting_initially defaultMark) ownIds
    symbol).1

/-- The realized result is the sum of those of the symbols. -/
theorem realizedPnl_final
    (ownIds : MockOp.OwnIds ops)
    {symbols : Finset String}
    (covers : ∀ op ∈ ops, op.storedSymbol ∈ symbols) :
    (mockMachine.final (create defaultMark) ops).realizedPnl =
      ∑ symbol ∈ symbols,
        (mockMachine.final (create defaultMark)
          (MockOp.onSymbol symbol ops)).realizedPnl := by
  have summed :=
    symbolSplitting.measure_run (symbolSplitting_initially defaultMark)
      realizedMeasuring ownIds covers
  have fromZero : (create defaultMark).realizedPnl = 0 := rfl
  simp only [realizedMeasuring, symbolSplitting, Splitting.part, fromZero,
    sub_zero] at summed
  exact summed

/-- A position is held only in a symbol that some call is on. -/
theorem traded_of_held
    (ownIds : MockOp.OwnIds ops)
    {symbol : String}
    {position : MockPosition}
    (held :
      (mockMachine.final (create defaultMark) ops).positions.get? symbol =
        some position) :
    ∃ op ∈ ops, op.storedSymbol = symbol := by
  by_contra untraded
  have noCalls : MockOp.onSymbol symbol ops = [] := by
    rw [MockOp.onSymbol, List.filter_eq_nil_iff]
    intro op member onIt
    exact untraded ⟨op, member, of_decide_eq_true onIt⟩
  have alike := alikeOn_final defaultMark ownIds symbol
  rw [noCalls] at alike
  cases held.symm.trans alike.position

/-- The symbols that a run leaves alone are traded at the same mark price. -/
theorem getMarkPrice_final
    (ownIds : MockOp.OwnIds ops)
    (symbol : String) :
    (mockMachine.final (create defaultMark) ops).getMarkPrice symbol =
      (mockMachine.final (create defaultMark)
        (MockOp.onSymbol (upperText symbol) ops)).getMarkPrice symbol := by
  have alike := alikeOn_final defaultMark ownIds (upperText symbol)
  rw [getMarkPrice, getMarkPrice, alike.markPrice, alike.defaultMark]

/-- The unrealized result of one position. -/
def unrealizedOf
    (adapter : MockBinanceAdapter)
    (symbol : String)
    (position : MockPosition) : Decimal :=
  (adapter.getMarkPrice symbol - position.entryPrice) * position.positionAmt

theorem getUnrealizedPnl_total
    {adapter : MockBinanceAdapter}
    (consistent : adapter.Consistent) :
    adapter.getUnrealizedPnl =
      adapter.positions.total adapter.unrealizedOf := by
  rw [getUnrealizedPnl_eq consistent, entryCost, ← OrderedDict.total_sub]
  apply OrderedDict.total_congr
  intro symbol position _
  rw [unrealizedOf, sub_mul]

theorem consistent_final (ops : List MockOp) :
    (mockMachine.final (create defaultMark) ops).Consistent :=
  (MockReachable.of_run defaultMark ops).consistent

/-- Alone, a symbol has the unrealized result that it has among others. -/
theorem unrealized_alone
    (ownIds : MockOp.OwnIds ops)
    (symbol : String) :
    (mockMachine.final (create defaultMark)
        (MockOp.onSymbol symbol ops)).getUnrealizedPnl =
      (mockMachine.final (create defaultMark) ops).positions.measureAt
        (mockMachine.final (create defaultMark) ops).unrealizedOf symbol := by
  have onlyThis : MockOp.OwnIds (MockOp.onSymbol symbol ops) :=
    ownIds.sublist List.filter_sublist
  have covers : ∀ other position,
      (mockMachine.final (create defaultMark)
          (MockOp.onSymbol symbol ops)).positions.get? other =
        some position → other ∈ ({symbol} : Finset String) := by
    intro other position held
    obtain ⟨op, member, isOther⟩ :=
      traded_of_held defaultMark onlyThis held
    rw [Finset.mem_singleton, ← isOther]
    exact of_decide_eq_true (List.mem_filter.mp member).2
  have alike := alikeOn_final defaultMark ownIds symbol
  rw [getUnrealizedPnl_total (consistent_final defaultMark _),
    OrderedDict.total_eq_sum _ _ covers, Finset.sum_singleton,
    OrderedDict.measureAt, OrderedDict.measureAt, ← alike.position]
  cases held :
      (mockMachine.final (create defaultMark) ops).positions.get? symbol with
  | none => rfl
  | some position =>
      obtain ⟨op, _, isSymbol⟩ := traded_of_held defaultMark ownIds held
      have raised : upperText symbol = symbol := by
        rw [← isSymbol]
        exact upperText_upperText op.symbol
      have sameMark := getMarkPrice_final defaultMark ownIds symbol
      rw [raised] at sameMark
      simp only [unrealizedOf, sameMark]

/-- The unrealized result is the sum of those of the symbols. -/
theorem unrealizedPnl_final
    (ownIds : MockOp.OwnIds ops)
    {symbols : Finset String}
    (covers : ∀ op ∈ ops, op.storedSymbol ∈ symbols) :
    (mockMachine.final (create defaultMark) ops).getUnrealizedPnl =
      ∑ symbol ∈ symbols,
        (mockMachine.final (create defaultMark)
          (MockOp.onSymbol symbol ops)).getUnrealizedPnl := by
  have listed : ∀ symbol position,
      (mockMachine.final (create defaultMark) ops).positions.get? symbol =
        some position → symbol ∈ symbols := by
    intro symbol position held
    obtain ⟨op, member, isSymbol⟩ := traded_of_held defaultMark ownIds held
    rw [← isSymbol]
    exact covers op member
  rw [getUnrealizedPnl_total (consistent_final defaultMark ops),
    OrderedDict.total_eq_sum _ _ listed]
  apply Finset.sum_congr rfl
  intro symbol _
  exact (unrealized_alone defaultMark ownIds symbol).symm

end Runs

end MockBinanceAdapter

end SafeSignalTrader
