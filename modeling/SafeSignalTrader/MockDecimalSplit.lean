import Mathlib.Algebra.BigOperators.Group.Finset.Piecewise
import Mathlib.Algebra.BigOperators.Ring.Finset
import Mathlib.Algebra.Order.BigOperators.Group.Finset
import SafeSignalTrader.MockDecimalReadings
import SafeSignalTrader.MockSymbolSplit

/-!
# Trading symbol by symbol in the default context

What the default context rounds in a position depends on the calls on its
symbol alone, so the positions are digit for digit those of an adapter that
gets no other calls.  Only the results of the account are added up over the
symbols, in the order in which they are booked; they match the sums of those of
the symbols to the drift of the fills.
-/

namespace SafeSignalTrader

open DecimalContext
open PythonText
open RunSemantics

open scoped BigOperators

section Fills

variable {ceiling : Decimal}
variable {fills : List Fill}

/-- A part of some plain fills is plain. -/
theorem PlainFills.sublist
    {fewer : List Fill}
    (plain : PlainFills ceiling fills)
    (kept : fewer.Sublist fills) :
    PlainFills ceiling fewer where
  ceilingPositive := plain.ceilingPositive
  ceilingPlain := plain.ceilingPlain
  quantity := fun fill member => plain.quantity fill (kept.subset member)
  price := fun fill member => plain.price fill (kept.subset member)
  worth := by
    apply le_trans _ plain.worth
    apply mul_le_mul_of_nonneg_right _ (le_of_lt plain.ceilingPositive)
    apply (kept.map fun fill => |fill.signedQty|).sum_le_sum
    intro size member
    obtain ⟨fill, _, rfl⟩ := List.mem_map.mp member
    exact abs_nonneg _

/-- The turnover is the sum of those of the symbols. -/
theorem turnover_split
    {symbols : Finset String}
    (covers : ∀ fill ∈ fills, fill.symbol ∈ symbols) :
    ∑ symbol ∈ symbols,
        turnover (fills.filter fun fill => fill.symbol = symbol) =
      turnover fills := by
  induction fills with
  | nil => simp [turnover]
  | cons fill rest inductionHypothesis =>
      have listed := covers fill List.mem_cons_self
      have restCovers : ∀ other ∈ rest, other.symbol ∈ symbols :=
        fun other member => covers other (List.mem_cons_of_mem fill member)
      have added : ∀ symbol,
          turnover ((fill :: rest).filter fun fill => fill.symbol = symbol) =
            (if fill.symbol = symbol then |fill.signedQty| else 0) +
              turnover (rest.filter fun fill => fill.symbol = symbol) := by
        intro symbol
        by_cases here : fill.symbol = symbol
        · simp [here, turnover]
        · simp [here, turnover]
      simp only [added, Finset.sum_add_distrib,
        inductionHypothesis restCovers, Finset.sum_ite_eq, listed, ↓reduceIte]
      simp [turnover]

end Fills

namespace MockBinanceAdapter

section Moves

variable {arithmetic : DecimalArithmetic}
variable {whole part wholeAfter partAfter : MockBinanceAdapter}
variable {symbol : String}
variable {side : OrderSide}
variable {quantity price : Decimal}
variable {reduceOnly : Bool}

/-- Fills of adapters that hold the same of a symbol leave the same of it. -/
theorem FillMove.position_alike
    (wholeMove :
      FillMove arithmetic whole symbol side quantity price reduceOnly
        wholeAfter)
    (partMove :
      FillMove arithmetic part symbol side quantity price reduceOnly
        partAfter)
    (alike : whole.positions.get? symbol = part.positions.get? symbol) :
    wholeAfter.positions.get? symbol = partAfter.positions.get? symbol := by
  cases wholeMove with
  | ignored _ _ flat =>
      cases partMove with
      | ignored _ _ _ => exact alike
      | closed _ _ _ _ _ _ _ held _ _ _ _ =>
          cases flat.symm.trans (alike.trans held)
      | kept _ _ _ _ _ _ held _ _ _ =>
          cases flat.symm.trans (alike.trans held)
  | opened _ signed flat =>
      cases partMove with
      | opened _ partSigned _ =>
          cases signed.symm.trans partSigned
          simp [OrderedDict.get?_set]
      | closed _ _ _ _ _ _ _ held _ _ _ _ =>
          cases flat.symm.trans (alike.trans held)
      | kept _ _ _ _ _ _ held _ _ _ =>
          cases flat.symm.trans (alike.trans held)
  | closed _ position _ _ _ _ signed held closes _ _ _ =>
      cases partMove with
      | ignored _ _ flat => cases held.symm.trans (alike.trans flat)
      | opened _ _ flat => cases held.symm.trans (alike.trans flat)
      | closed _ _ _ _ _ _ _ _ _ _ _ _ =>
          simp [OrderedDict.get?_erase]
      | kept _ _ _ _ _ partSigned partHeld added keeps _ =>
          cases held.symm.trans (alike.trans partHeld)
          cases signed.symm.trans partSigned
          cases closes.symm.trans added
          exact absurd rfl keeps
  | kept _ position _ _ _ signed held added keeps averaged =>
      cases partMove with
      | ignored _ _ flat => cases held.symm.trans (alike.trans flat)
      | opened _ _ flat => cases held.symm.trans (alike.trans flat)
      | closed _ _ _ _ _ _ partSigned partHeld closes _ _ _ =>
          cases held.symm.trans (alike.trans partHeld)
          cases signed.symm.trans partSigned
          cases closes.symm.trans added
          exact absurd rfl keeps
      | kept _ _ _ _ _ partSigned partHeld partAdded _ partAveraged =>
          have samePosition := held.symm.trans (alike.trans partHeld)
          cases samePosition
          cases signed.symm.trans partSigned
          cases added.symm.trans partAdded
          cases averaged.symm.trans partAveraged
          simp [OrderedDict.get?_modify, held, partHeld]

/-- A call that fills an order and does not raise makes one of the moves. -/
theorem fillMove_of_replied
    {adapter : MockBinanceAdapter}
    {request : OrderRequest}
    {now : Int}
    {reply : MockReply}
    (fills : adapter.filledOrder? (.placeOrder request now) = some request)
    (replied :
      (adapter.stepWith arithmetic (.placeOrder request now)).2 =
        .ok reply) :
    FillMove arithmetic (adapter.record (adapter.orderOf request now))
      request.storedSymbol request.side request.quantity
      (adapter.fillPrice request) request.reduceOnly
      (adapter.stepWith arithmetic (.placeOrder request now)).1 := by
  cases computed :
      (adapter.record (adapter.orderOf request now)).applyFillWith arithmetic
        request.storedSymbol request.side request.quantity
        (adapter.fillPrice request) request.reduceOnly with
  | error signal =>
      rw [stepWith_raised fills computed] at replied
      cases replied
  | ok filled =>
      rw [stepWith_filled fills computed]
      exact applyFillWith_eq_ok_iff.mp computed

end Moves

section Runs

variable {ceiling : Decimal}
variable (defaultMark : Decimal)
variable {past ops : List MockOp}

/-- The fill of a call is one on its symbol. -/
theorem fill?_symbol
    {adapter : MockBinanceAdapter}
    {op : MockOp}
    {fill : Fill}
    (fills : adapter.fill? op = some fill) :
    fill.symbol = op.storedSymbol := by
  obtain ⟨request, filled, rfl⟩ := Option.map_eq_some_iff.mp fills
  obtain ⟨now, rfl, _⟩ := step_filled filled
  rfl

/-- Alone, a call fills the order that it fills among others. -/
theorem filledOrder?_alone
    {op : MockOp}
    (ownIds : MockOp.OwnIds (past ++ [op])) :
    (mockMachine.final (create defaultMark) past).filledOrder? op =
      (mockMachine.final (create defaultMark)
        (MockOp.onSymbol op.storedSymbol past)).filledOrder? op := by
  apply AlikeOn.filledOrder?
  intro clientOrderId submits
  rw [knows_final, knows_final]
  exact ownIds.mem_submittedIds_iff submits

/-- Alone, a call makes the fill that it makes among others. -/
theorem fill?_alone
    {op : MockOp}
    (ownIds : MockOp.OwnIds (past ++ [op])) :
    (mockMachine.final (create defaultMark) past).fill? op =
      (mockMachine.final (create defaultMark)
        (MockOp.onSymbol op.storedSymbol past)).fill? op := by
  have alike :=
    alikeOn_final defaultMark
      (ownIds.sublist (List.sublist_append_left past [op])) op.storedSymbol
  unfold fill?
  rw [← filledOrder?_alone defaultMark ownIds]
  cases filled :
      (mockMachine.final (create defaultMark) past).filledOrder? op with
  | none => rfl
  | some request =>
      obtain ⟨now, rfl, _⟩ := step_filled filled
      simp only [Option.map_some, fillOf, AlikeOn.fillPrice alike]

/-- The calls on a symbol make the fills on it. -/
theorem fills_onSymbol
    (ownIds : MockOp.OwnIds ops)
    (symbol : String) :
    (create defaultMark).fills (MockOp.onSymbol symbol ops) =
      ((create defaultMark).fills ops).filter
        fun fill => fill.symbol = symbol := by
  induction ops using List.reverseRecOn with
  | nil => rfl
  | append_singleton past op inductionHypothesis =>
      have soFar :=
        inductionHypothesis
          (ownIds.sublist (List.sublist_append_left past [op]))
      have last : ∀ adapter : MockBinanceAdapter,
          adapter.fills [op] = (adapter.fill? op).toList :=
        fun adapter => List.append_nil _
      rw [fills_append, List.filter_append, ← soFar, last]
      by_cases here : op.storedSymbol = symbol
      · subst here
        have isLast :
            MockOp.onSymbol op.storedSymbol (past ++ [op]) =
              MockOp.onSymbol op.storedSymbol past ++ [op] := by
          simp [MockOp.onSymbol]
        rw [isLast, fills_append, last, ← fill?_alone defaultMark ownIds]
        congr 1
        cases fills :
            (mockMachine.final (create defaultMark) past).fill? op with
        | none => rfl
        | some fill => simp [fill?_symbol fills]
      · have unlisted :
            MockOp.onSymbol symbol (past ++ [op]) =
              MockOp.onSymbol symbol past := by
          simp [MockOp.onSymbol, here]
        rw [unlisted]
        cases fills :
            (mockMachine.final (create defaultMark) past).fill? op with
        | none => simp
        | some fill => simp [fill?_symbol fills, here]

/-- The calls on a symbol make plain fills if all calls do. -/
theorem plainFills_onSymbol
    (ownIds : MockOp.OwnIds ops)
    (plain : PlainFills ceiling ((create defaultMark).fills ops))
    (symbol : String) :
    PlainFills ceiling
      ((create defaultMark).fills (MockOp.onSymbol symbol ops)) := by
  rw [fills_onSymbol defaultMark ownIds]
  exact plain.sublist List.filter_sublist

/-- A run of plain fills behind which a call fills an order like the exact one. -/
theorem decimal_step
    {op : MockOp}
    (plain : PlainFills ceiling ((create defaultMark).fills (past ++ [op]))) :
    let actual :=
      (decimalMachine contextArithmetic).final (create defaultMark) past
    let exactly := mockMachine.final (create defaultMark) past
    actual = exactly.withBooks actual.positions actual.realizedPnl ∧
      ∃ reply, (actual.stepWith contextArithmetic op).2 = .ok reply := by
  intro actual exactly
  rw [fills_append] at plain
  obtain ⟨positions, realizedPnl, closed, final, books, _⟩ :=
    (DriftingBooks.initially ceiling defaultMark).run plain.of_append
  have isFinal : actual = exactly.withBooks positions realizedPnl := final
  have last : exactly.fills [op] = (exactly.fill? op).toList :=
    List.append_nil _
  rw [← List.nil_append ((create defaultMark).fills past)] at plain
  obtain ⟨_, _, _, stepped, _⟩ := books.step (last ▸ plain)
  refine ⟨?_, (exactly.step op).2, ?_⟩
  · rw [isFinal]
    rfl
  · rw [isFinal, stepped]

/-- A call leaves the positions of the other symbols. -/
theorem stepWith_position_other
    {arithmetic : DecimalArithmetic}
    {adapter : MockBinanceAdapter}
    {op : MockOp}
    {symbol : String}
    (elsewhere : symbol ≠ op.storedSymbol) :
    (adapter.stepWith arithmetic op).1.positions.get? symbol =
      adapter.positions.get? symbol := by
  cases filled : adapter.filledOrder? op with
  | none =>
      rw [stepWith_unfilled filled, (step_unfilled filled).1]
  | some request =>
      obtain ⟨now, isOrder, stored | move⟩ :=
        @stepWith_fills arithmetic adapter op request filled
      · rw [stored]
        rfl
      · subst isOrder
        exact move.position_other elsewhere

/-- A call leaves the same position of its symbol alone as among others. -/
theorem position_own
    {op : MockOp}
    (ownIds : MockOp.OwnIds (past ++ [op]))
    (plain : PlainFills ceiling ((create defaultMark).fills (past ++ [op]))) :
    let whole :=
      (decimalMachine contextArithmetic).final (create defaultMark) past
    let part :=
      (decimalMachine contextArithmetic).final (create defaultMark)
        (MockOp.onSymbol op.storedSymbol past)
    whole.positions.get? op.storedSymbol =
        part.positions.get? op.storedSymbol →
      (whole.stepWith contextArithmetic op).1.positions.get?
          op.storedSymbol =
        (part.stepWith contextArithmetic op).1.positions.get?
          op.storedSymbol := by
  intro whole part alike
  have plainPart := plainFills_onSymbol defaultMark ownIds plain op.storedSymbol
  have isLast :
      MockOp.onSymbol op.storedSymbol (past ++ [op]) =
        MockOp.onSymbol op.storedSymbol past ++ [op] := by
    simp [MockOp.onSymbol]
  rw [isLast] at plainPart
  obtain ⟨isWhole, _, replied⟩ := decimal_step defaultMark plain
  obtain ⟨isPart, _, partReplied⟩ := decimal_step defaultMark plainPart
  have wholeFills := filledOrder?_withBooks
    (mockMachine.final (create defaultMark) past) whole.positions
    whole.realizedPnl op
  have partFills := filledOrder?_withBooks
    (mockMachine.final (create defaultMark)
      (MockOp.onSymbol op.storedSymbol past)) part.positions
    part.realizedPnl op
  rw [← isWhole] at wholeFills
  rw [← isPart] at partFills
  have sameFill : whole.filledOrder? op = part.filledOrder? op :=
    wholeFills.trans
      ((filledOrder?_alone defaultMark ownIds).trans partFills.symm)
  cases filled : whole.filledOrder? op with
  | none =>
      rw [stepWith_unfilled filled, stepWith_unfilled (sameFill ▸ filled),
        (step_unfilled filled).1, (step_unfilled (sameFill ▸ filled)).1]
      exact alike
  | some request =>
      have partFilled : part.filledOrder? op = some request :=
        sameFill ▸ filled
      obtain ⟨now, rfl, _⟩ := step_filled filled
      have wholePrice :
          whole.fillPrice request =
            (mockMachine.final (create defaultMark) past).fillPrice
              request :=
        congrArg (fun adapter => adapter.fillPrice request) isWhole
      have partPrice :
          part.fillPrice request =
            (mockMachine.final (create defaultMark)
              (MockOp.onSymbol request.storedSymbol past)).fillPrice
                request :=
        congrArg (fun adapter => adapter.fillPrice request) isPart
      have samePrice : whole.fillPrice request = part.fillPrice request :=
        wholePrice.trans
          ((AlikeOn.fillPrice (alikeOn_final defaultMark
            (ownIds.sublist (List.sublist_append_left past _))
              request.storedSymbol)).trans partPrice.symm)
      have wholeMove := fillMove_of_replied filled replied
      have partMove := fillMove_of_replied partFilled partReplied
      rw [samePrice] at wholeMove
      exact wholeMove.position_alike partMove alike

variable (ceiling) in
/-- The adapter in the default context, split by symbol. -/
def decimalSplitting :
    Splitting (decimalMachine contextArithmetic) String where
  key := MockOp.storedSymbol
  premise := fun ops =>
    MockOp.OwnIds ops ∧ PlainFills ceiling ((create defaultMark).fills ops)
  agrees := fun past symbol whole part =>
    (decimalMachine contextArithmetic).final (create defaultMark) past =
        whole ∧
      (decimalMachine contextArithmetic).final (create defaultMark)
          (MockOp.onSymbol symbol past) = part ∧
        whole.positions.get? symbol = part.positions.get? symbol
  initialPart := by
    intro past op allowed
    obtain ⟨ownIds, plain⟩ := allowed
    rw [fills_append] at plain
    exact ⟨ownIds.sublist (List.sublist_append_left past [op]),
      plain.of_append⟩
  own := by
    intro past op whole part allowed agreed
    obtain ⟨ownIds, plain⟩ := allowed
    obtain ⟨rfl, rfl, alike⟩ := agreed
    have isLast :
        MockOp.onSymbol op.storedSymbol (past ++ [op]) =
          MockOp.onSymbol op.storedSymbol past ++ [op] := by
      simp [MockOp.onSymbol]
    refine ⟨Machine.final_append _ _ past [op], ?_,
      position_own defaultMark ownIds plain alike⟩
    rw [isLast]
    exact Machine.final_append _ _ _ [op]
  foreign := by
    intro past op other whole part _ elsewhere agreed
    obtain ⟨rfl, rfl, alike⟩ := agreed
    have unlisted :
        MockOp.onSymbol other (past ++ [op]) =
          MockOp.onSymbol other past := by
      simp [MockOp.onSymbol, Ne.symm elsewhere]
    refine ⟨Machine.final_append _ _ past [op], by rw [unlisted], ?_⟩
    exact (stepWith_position_other elsewhere).trans alike

/-- A run leaves of a symbol the position that the calls on it leave. -/
theorem position_alone
    (ownIds : MockOp.OwnIds ops)
    (plain : PlainFills ceiling ((create defaultMark).fills ops))
    (symbol : String) :
    ((decimalMachine contextArithmetic).final (create defaultMark)
        ops).positions.get? symbol =
      ((decimalMachine contextArithmetic).final (create defaultMark)
        (MockOp.onSymbol symbol ops)).positions.get? symbol :=
  ((decimalSplitting ceiling defaultMark).agrees_run
    (fun _ => ⟨rfl, rfl, rfl⟩) ⟨ownIds, plain⟩ symbol).2.2

end Runs

section Sums

variable {ceiling : Decimal}
variable {fills : List Fill}

/-- More fills drift no less. -/
theorem drift_le
    (plain : PlainFills ceiling fills)
    {fewer more : Nat}
    (atMost : fewer ≤ more) :
    drift ceiling fewer ≤ drift ceiling more := by
  have ceilingPositive := plain.ceilingPositive
  unfold drift
  gcongr

/-- Results near the exact ones add up to one near the exact sum. -/
theorem sum_near
    {symbols : Finset String}
    {total exactTotal weight near : Decimal}
    {results exactResults weights : String → Decimal}
    (isSum : exactTotal = ∑ symbol ∈ symbols, exactResults symbol)
    (close : |total - exactTotal| ≤ weight * near)
    (eachClose : ∀ symbol ∈ symbols,
      |results symbol - exactResults symbol| ≤ weights symbol * near)
    (weighs : ∑ symbol ∈ symbols, weights symbol = weight) :
    |total - ∑ symbol ∈ symbols, results symbol| ≤ 2 * (weight * near) := by
  have summed :
      |∑ symbol ∈ symbols, (results symbol - exactResults symbol)| ≤
        weight * near := by
    rw [← weighs, Finset.sum_mul]
    exact le_trans (Finset.abs_sum_le_sum_abs _ _)
      (Finset.sum_le_sum eachClose)
  have split :
      total - ∑ symbol ∈ symbols, results symbol =
        (total - exactTotal) -
          ∑ symbol ∈ symbols, (results symbol - exactResults symbol) := by
    rw [Finset.sum_sub_distrib, ← isSum]
    ring
  rw [split, two_mul]
  exact le_trans (abs_sub _ _) (add_le_add close summed)

end Sums

section Results

variable {ceiling : Decimal}
variable (defaultMark : Decimal)
variable {ops : List MockOp}

/-- A fill is on the symbol of a call. -/
theorem symbol_of_mem_fills
    {adapter : MockBinanceAdapter}
    {fill : Fill}
    (member : fill ∈ adapter.fills ops) :
    ∃ op ∈ ops, op.storedSymbol = fill.symbol := by
  induction ops generalizing adapter with
  | nil => cases member
  | cons op rest inductionHypothesis =>
      rw [fills, List.mem_append, Option.mem_toList] at member
      rcases member with here | later
      · exact ⟨op, List.mem_cons_self, (fill?_symbol here).symm⟩
      · obtain ⟨other, inRest, onIt⟩ := inductionHypothesis later
        exact ⟨other, List.mem_cons_of_mem op inRest, onIt⟩

/-- The default context leaves the books of a run drifting from exact ones. -/
theorem decimal_final
    (plain : PlainFills ceiling ((create defaultMark).fills ops)) :
    ∃ positions realizedPnl closed,
      (decimalMachine contextArithmetic).final (create defaultMark) ops =
        (mockMachine.final (create defaultMark) ops).withBooks positions
          realizedPnl ∧
      DriftingBooks ceiling ((create defaultMark).fills ops)
        (mockMachine.final (create defaultMark) ops) positions realizedPnl
        closed := by
  obtain ⟨positions, realizedPnl, closed, final, books, _⟩ :=
    (DriftingBooks.initially ceiling defaultMark).run plain
  exact ⟨positions, realizedPnl, closed, final, books⟩

/-- The mark prices are the exact ones. -/
theorem getMarkPrice_decimal
    (plain : PlainFills ceiling ((create defaultMark).fills ops))
    (symbol : String) :
    ((decimalMachine contextArithmetic).final (create defaultMark)
        ops).getMarkPrice symbol =
      (mockMachine.final (create defaultMark) ops).getMarkPrice symbol := by
  obtain ⟨positions, realizedPnl, _, final, _⟩ :=
    decimal_final defaultMark plain
  rw [final]
  rfl

/-- As many positions are shown as in exact arithmetic. -/
theorem getPositions_decimal_length
    (plain : PlainFills ceiling ((create defaultMark).fills ops)) :
    ((decimalMachine contextArithmetic).final (create defaultMark)
        ops).getPositions.length =
      (mockMachine.final (create defaultMark) ops).getPositions.length := by
  obtain ⟨positions, realizedPnl, _, final, books⟩ :=
    decimal_final defaultMark plain
  rw [final]
  exact (books.getPositions none).1.length_eq

/-- The realized result misses the exact one by the turnover's drift. -/
theorem realizedPnl_decimal_near
    (plain : PlainFills ceiling ((create defaultMark).fills ops)) :
    |((decimalMachine contextArithmetic).final (create defaultMark)
          ops).realizedPnl -
        (mockMachine.final (create defaultMark) ops).realizedPnl| ≤
      turnover ((create defaultMark).fills ops) *
        drift ceiling ((create defaultMark).fills ops).length := by
  obtain ⟨positions, realizedPnl, _, final, books⟩ :=
    decimal_final defaultMark plain
  rw [final]
  exact books.realizedPnl_near plain

/-- The unrealized result is read near the exact one. -/
theorem unrealizedPnl_decimal_near
    (plain : PlainFills ceiling ((create defaultMark).fills ops))
    (marked :
      ∀ position ∈
          (mockMachine.final (create defaultMark) ops).getPositions,
        0 ≤ (mockMachine.final (create defaultMark) ops).getMarkPrice
            position.symbol ∧
          (mockMachine.final (create defaultMark) ops).getMarkPrice
            position.symbol ≤ ceiling) :
    ∃ result,
      ((decimalMachine contextArithmetic).final (create defaultMark)
          ops).getUnrealizedPnlWith contextArithmetic = .ok result ∧
        |result -
            (mockMachine.final (create defaultMark) ops).getUnrealizedPnl| ≤
          turnover ((create defaultMark).fills ops) *
            drift ceiling (((create defaultMark).fills ops).length +
              (mockMachine.final (create defaultMark)
                ops).getPositions.length) := by
  obtain ⟨positions, realizedPnl, _, final, books⟩ :=
    decimal_final defaultMark plain
  rw [final]
  exact books.unrealizedPnl_near plain marked

/-- A run shows the mark price that the calls on a symbol leave. -/
theorem getMarkPrice_alone
    (ownIds : MockOp.OwnIds ops)
    (plain : PlainFills ceiling ((create defaultMark).fills ops))
    (symbol : String) :
    ((decimalMachine contextArithmetic).final (create defaultMark)
        ops).getMarkPrice symbol =
      ((decimalMachine contextArithmetic).final (create defaultMark)
        (MockOp.onSymbol (upperText symbol) ops)).getMarkPrice symbol := by
  have plainAlone :=
    plainFills_onSymbol defaultMark ownIds plain (upperText symbol)
  rw [getMarkPrice_decimal defaultMark plain,
    getMarkPrice_decimal defaultMark plainAlone]
  exact getMarkPrice_final defaultMark ownIds symbol

/-- Alone, the realized result misses the exact one by the turnover's drift. -/
theorem realizedPnl_alone_near
    (ownIds : MockOp.OwnIds ops)
    (plain : PlainFills ceiling ((create defaultMark).fills ops))
    (symbol : String) :
    let fills := (create defaultMark).fills ops
    |((decimalMachine contextArithmetic).final (create defaultMark)
          (MockOp.onSymbol symbol ops)).realizedPnl -
        (mockMachine.final (create defaultMark)
          (MockOp.onSymbol symbol ops)).realizedPnl| ≤
      turnover (fills.filter fun fill => fill.symbol = symbol) *
        drift ceiling fills.length := by
  intro fills
  have plainAlone := plainFills_onSymbol defaultMark ownIds plain symbol
  have near := realizedPnl_decimal_near defaultMark plainAlone
  rw [fills_onSymbol defaultMark ownIds] at near
  refine le_trans near ?_
  exact mul_le_mul_of_nonneg_left
    (drift_le plain (List.length_filter_le _ _)) (turnover_nonneg _)

/-- Alone, a position is held in the symbol only, under its upper-case name. -/
theorem symbol_of_held_alone
    (ownIds : MockOp.OwnIds ops)
    {symbol other : String}
    {position : MockPosition}
    (held :
      (mockMachine.final (create defaultMark)
        (MockOp.onSymbol symbol ops)).positions.get? other =
          some position) :
    other = symbol ∧ upperText symbol = symbol := by
  obtain ⟨op, member, isOther⟩ :=
    traded_of_held defaultMark (ownIds.sublist List.filter_sublist) held
  have isSymbol : op.storedSymbol = symbol :=
    of_decide_eq_true (List.mem_filter.mp member).2
  refine ⟨isOther.symm.trans isSymbol, ?_⟩
  rw [← isSymbol]
  exact upperText_upperText op.symbol

/-- Alone, there are no more positions than among others. -/
theorem positions_alone_le
    (ownIds : MockOp.OwnIds ops)
    (symbol : String) :
    ((mockMachine.final (create defaultMark)
        (MockOp.onSymbol symbol ops)).getPositions).length ≤
      ((mockMachine.final (create defaultMark) ops).getPositions).length := by
  have asKeys : ∀ adapter : MockBinanceAdapter,
      adapter.getPositions.length = adapter.positions.keys.length := by
    intro adapter
    simp [getPositions, truthy, OrderedDict.values, OrderedDict.keys]
  rw [asKeys, asKeys]
  refine (List.subperm_of_subset (OrderedDict.keysNodup _) ?_).length_le
  intro key member
  by_contra absent
  have missing := (OrderedDict.get?_eq_none_iff _).mpr absent
  cases held :
      (mockMachine.final (create defaultMark)
        (MockOp.onSymbol symbol ops)).positions.get? key with
  | none =>
      exact (OrderedDict.get?_eq_none_iff _).mp held member
  | some position =>
      obtain ⟨rfl, _⟩ := symbol_of_held_alone defaultMark ownIds held
      have alike := alikeOn_final defaultMark ownIds key
      cases missing.symm.trans (alike.position.trans held)

/-- Alone, the unrealized result is read near the exact one. -/
theorem unrealizedPnl_alone_near
    (ownIds : MockOp.OwnIds ops)
    (plain : PlainFills ceiling ((create defaultMark).fills ops))
    (marks :
      (mockMachine.final (create defaultMark) ops).MarksWithin ceiling)
    (symbol : String) :
    let fills := (create defaultMark).fills ops
    ∃ result,
      ((decimalMachine contextArithmetic).final (create defaultMark)
          (MockOp.onSymbol symbol ops)).getUnrealizedPnlWith
            contextArithmetic = .ok result ∧
        |result - (mockMachine.final (create defaultMark)
            (MockOp.onSymbol symbol ops)).getUnrealizedPnl| ≤
          turnover (fills.filter fun fill => fill.symbol = symbol) *
            drift ceiling (fills.length +
              (mockMachine.final (create defaultMark)
                ops).getPositions.length) := by
  intro fills
  have plainAlone := plainFills_onSymbol defaultMark ownIds plain symbol
  have marked : ∀ position ∈ (mockMachine.final (create defaultMark)
      (MockOp.onSymbol symbol ops)).getPositions,
        0 ≤ (mockMachine.final (create defaultMark)
            (MockOp.onSymbol symbol ops)).getMarkPrice position.symbol ∧
          (mockMachine.final (create defaultMark)
            (MockOp.onSymbol symbol ops)).getMarkPrice position.symbol ≤
              ceiling := by
    intro position member
    obtain ⟨key, held⟩ := (OrderedDict.mem_values_iff _).mp member
    obtain ⟨rfl, upper⟩ := symbol_of_held_alone defaultMark ownIds held
    have named := (consistent_final defaultMark _).positionSymbol held
    have sameMark := getMarkPrice_final defaultMark ownIds key
    rw [upper] at sameMark
    rw [named, ← sameMark]
    exact marks key
  obtain ⟨result, computed, near⟩ :=
    unrealizedPnl_decimal_near defaultMark plainAlone marked
  rw [fills_onSymbol defaultMark ownIds] at near
  refine ⟨result, computed, le_trans near ?_⟩
  apply mul_le_mul_of_nonneg_left _ (turnover_nonneg _)
  exact drift_le plain (Nat.add_le_add (List.length_filter_le _ _)
    (positions_alone_le defaultMark ownIds symbol))

end Results

end MockBinanceAdapter

/--
An adapter on which no client id is used with two symbols trades each symbol in
the default context as an adapter does that gets the calls on that symbol
alone: it shows the same positions, digit for digit, and the same mark price,
and on plain fills its realized and unrealized results are the sums of theirs
up to twice the drift of the turnover.
-/
theorem symbolsTradeApart
    (ceiling defaultMark : Decimal)
    (ops : List MockOp)
    (symbols : Finset String)
    (ownIds : MockOp.OwnIds ops)
    (covers : ∀ op ∈ ops, op.storedSymbol ∈ symbols)
    (plain : PlainFills ceiling
      ((MockBinanceAdapter.create defaultMark).fills ops))
    (marks :
      ((decimalMachine contextArithmetic).final (.create defaultMark)
        ops).MarksWithin ceiling) :
    let fills := (MockBinanceAdapter.create defaultMark).fills ops
    let account :=
      (decimalMachine contextArithmetic).final (.create defaultMark) ops
    let alone := fun symbol =>
      (decimalMachine contextArithmetic).final (.create defaultMark)
        (MockOp.onSymbol symbol ops)
    (∀ symbol, symbol ≠ "" →
        account.getPositions (some symbol) =
          (alone (upperText symbol)).getPositions (some symbol)) ∧
      (∀ symbol,
        account.getMarkPrice symbol =
          (alone (upperText symbol)).getMarkPrice symbol) ∧
      |account.getRealizedPnl -
          ∑ symbol ∈ symbols, (alone symbol).getRealizedPnl| ≤
        2 * (turnover fills * drift ceiling fills.length) ∧
      ∃ (total : Decimal) (results : String → Decimal),
        account.getUnrealizedPnlWith contextArithmetic = .ok total ∧
          (∀ symbol,
            (alone symbol).getUnrealizedPnlWith contextArithmetic =
              .ok (results symbol)) ∧
          |total - ∑ symbol ∈ symbols, results symbol| ≤
            2 * (turnover fills * drift ceiling
              (fills.length + account.getPositions.length)) := by
  intro fills account alone
  have exactMarks :
      (mockMachine.final (.create defaultMark) ops).MarksWithin ceiling := by
    intro symbol
    rw [← MockBinanceAdapter.getMarkPrice_decimal defaultMark plain]
    exact marks symbol
  have tradedIn : ∀ fill ∈ fills, fill.symbol ∈ symbols := by
    intro fill member
    obtain ⟨op, inOps, onIt⟩ :=
      MockBinanceAdapter.symbol_of_mem_fills member
    exact onIt ▸ covers op inOps
  refine ⟨?_, ?_, ?_, ?_⟩
  · intro symbol given
    have isGiven : MockBinanceAdapter.truthy (some symbol) = some symbol := by
      simp [MockBinanceAdapter.truthy, given]
    simp only [MockBinanceAdapter.getPositions, isGiven]
    exact congrArg Option.toList
      (MockBinanceAdapter.position_alone defaultMark ownIds plain
        (upperText symbol))
  · exact MockBinanceAdapter.getMarkPrice_alone defaultMark ownIds plain
  · apply MockBinanceAdapter.sum_near
      (MockBinanceAdapter.realizedPnl_final defaultMark ownIds covers)
      (MockBinanceAdapter.realizedPnl_decimal_near defaultMark plain)
    · intro symbol _
      exact MockBinanceAdapter.realizedPnl_alone_near defaultMark ownIds
        plain symbol
    · exact turnover_split tradedIn
  · obtain ⟨total, computed, near⟩ :=
      MockBinanceAdapter.unrealizedPnl_decimal_near defaultMark plain
        fun position _ => exactMarks position.symbol
    choose results resultsComputed resultsNear using
      MockBinanceAdapter.unrealizedPnl_alone_near defaultMark ownIds plain
        exactMarks
    refine ⟨total, results, computed, resultsComputed, ?_⟩
    rw [MockBinanceAdapter.getPositions_decimal_length defaultMark plain]
    exact MockBinanceAdapter.sum_near
      (MockBinanceAdapter.unrealizedPnl_final defaultMark ownIds covers)
      near (fun symbol _ => resultsNear symbol) (turnover_split tradedIn)

/-- Trading two symbols at once. -/
def twoSymbols : List MockOp :=
  [.placeOrder (btcOrder .buy 2 "btc-entry" false) 1,
    .placeOrder { btcOrder .sell 3 "eth-entry" false with symbol := "ethusdt" }
      2,
    .setMarkPrice "BTCUSDT" 120,
    .placeOrder (btcOrder .sell 2 "btc-exit" false) 3,
    .setMarkPrice "ethusdt" 90]

/-- Two symbols traded for at most 120 a unit are plain fills. -/
theorem plainFills_twoSymbols :
    PlainFills 120 ((MockBinanceAdapter.create 100).fills twoSymbols) := by
  have fills :
      (MockBinanceAdapter.create 100).fills twoSymbols =
        [⟨"BTCUSDT", 2, 100⟩, ⟨"ETHUSDT", -3, 100⟩,
          ⟨"BTCUSDT", -2, 120⟩] := by
    decide +kernel
  rw [fills]
  refine ⟨by norm_num, ⟨⟨120 * 10 ^ 8, by norm_num⟩, by norm_num⟩, ?_,
    by decide +kernel, by decide +kernel⟩
  intro fill member
  simp only [List.mem_cons, List.not_mem_nil, or_false] at member
  rcases member with rfl | rfl | rfl
  · exact ⟨2 * 10 ^ 8, by norm_num⟩
  · exact ⟨-3 * 10 ^ 8, by norm_num⟩
  · exact ⟨-2 * 10 ^ 8, by norm_num⟩

/-- The marks of the two symbols and of all others are at most 120. -/
theorem marksWithin_twoSymbols :
    ((decimalMachine contextArithmetic).final (.create 100)
      twoSymbols).MarksWithin 120 :=
  MockBinanceAdapter.marksWithin_of_stored (by decide +kernel)
    (by decide +kernel)

/-- Bitcoin is closed with a gain of 40, while ether is open. -/
theorem symbolsTradeApart_twoSymbols :
    let account :=
      (decimalMachine contextArithmetic).final (.create 100) twoSymbols
    let alone := fun symbol =>
      (decimalMachine contextArithmetic).final (.create 100)
        (MockOp.onSymbol symbol twoSymbols)
    account.getPositions (some "ethusdt") =
        (alone (upperText "ethusdt")).getPositions (some "ethusdt") ∧
      account.getRealizedPnl = 40 :=
  ⟨(symbolsTradeApart 120 100 twoSymbols {"BTCUSDT", "ETHUSDT"}
      (by decide +kernel) (by decide +kernel) plainFills_twoSymbols
      marksWithin_twoSymbols).1 "ethusdt" (by decide),
    by decide +kernel⟩

section Interleaving

/-- Calls in two interleavings of the same calls on each symbol are the same. -/
theorem MockOp.mem_of_sameCalls
    {first second : List MockOp}
    (sameCalls : ∀ symbol, onSymbol symbol first = onSymbol symbol second)
    {op : MockOp}
    (member : op ∈ second) :
    op ∈ first := by
  have listed : op ∈ onSymbol op.storedSymbol second :=
    List.mem_filter.mpr ⟨member, decide_eq_true rfl⟩
  rw [← sameCalls] at listed
  exact (List.mem_filter.mp listed).1

/-- Two interleavings use client ids alike. -/
theorem MockOp.OwnIds.of_sameCalls
    {first second : List MockOp}
    (ownIds : OwnIds first)
    (sameCalls : ∀ symbol, onSymbol symbol first = onSymbol symbol second) :
    OwnIds second :=
  fun left leftMember right rightMember =>
    ownIds left (mem_of_sameCalls sameCalls leftMember) right
      (mem_of_sameCalls sameCalls rightMember)

/-- Two interleavings make the same fills in some order. -/
theorem MockBinanceAdapter.fills_perm
    {first second : List MockOp}
    (defaultMark : Decimal)
    (ownIds : MockOp.OwnIds first)
    (sameCalls : ∀ symbol,
      MockOp.onSymbol symbol first = MockOp.onSymbol symbol second) :
    ((create defaultMark).fills first).Perm
      ((create defaultMark).fills second) := by
  rw [List.perm_iff_count]
  intro fill
  have counted : ∀ fills : List Fill,
      fills.count fill =
        (fills.filter fun other => other.symbol = fill.symbol).count fill := by
    intro fills
    rw [List.count_filter]
    exact decide_eq_true rfl
  rw [counted, counted ((create defaultMark).fills second),
    ← fills_onSymbol defaultMark ownIds,
    ← fills_onSymbol defaultMark (ownIds.of_sameCalls sameCalls), sameCalls]

/-- The order of fills does not matter to their turnover. -/
theorem turnover_perm
    {fills others : List Fill}
    (same : fills.Perm others) :
    turnover fills = turnover others := by
  have mapped := same.map fun fill => |fill.signedQty|
  exact List.Perm.sum_eq mapped

/-- Fills in another order are plain, too. -/
theorem PlainFills.perm
    {ceiling : Decimal}
    {fills others : List Fill}
    (plain : PlainFills ceiling fills)
    (same : fills.Perm others) :
    PlainFills ceiling others := by
  refine ⟨plain.ceilingPositive, plain.ceilingPlain, ?_, ?_, ?_⟩
  · intro fill member
    exact plain.quantity fill (same.mem_iff.mpr member)
  · intro fill member
    exact plain.price fill (same.mem_iff.mpr member)
  · rw [← turnover_perm same]
    exact plain.worth

/-- Two interleavings have the same results in exact arithmetic. -/
theorem MockBinanceAdapter.exactResults_of_sameCalls
    {first second : List MockOp}
    (defaultMark : Decimal)
    (ownIds : MockOp.OwnIds first)
    (sameCalls : ∀ symbol,
      MockOp.onSymbol symbol first = MockOp.onSymbol symbol second) :
    (mockMachine.final (create defaultMark) second).realizedPnl =
        (mockMachine.final (create defaultMark) first).realizedPnl ∧
      (mockMachine.final (create defaultMark) second).getUnrealizedPnl =
        (mockMachine.final (create defaultMark) first).getUnrealizedPnl := by
  have ownSecond := ownIds.of_sameCalls sameCalls
  have covers : ∀ op ∈ first,
      op.storedSymbol ∈ (first.map MockOp.storedSymbol).toFinset :=
    fun op member => List.mem_toFinset.mpr (List.mem_map_of_mem member)
  have coversSecond : ∀ op ∈ second,
      op.storedSymbol ∈ (first.map MockOp.storedSymbol).toFinset :=
    fun op member => covers op (MockOp.mem_of_sameCalls sameCalls member)
  rw [realizedPnl_final defaultMark ownIds covers,
    realizedPnl_final defaultMark ownSecond coversSecond,
    unrealizedPnl_final defaultMark ownIds covers,
    unrealizedPnl_final defaultMark ownSecond coversSecond]
  simp only [sameCalls, and_self]

/-- Two results near one are near each other. -/
theorem near_of_near
    {left right middle near : Decimal}
    (leftNear : |left - middle| ≤ near)
    (rightNear : |right - middle| ≤ near) :
    |left - right| ≤ 2 * near := by
  have apart := abs_sub_le left middle right
  rw [abs_sub_comm middle right] at apart
  rw [two_mul]
  exact le_trans apart (add_le_add leftNear rightNear)

end Interleaving

/--
How calls on different symbols are interleaved is of no account in the default
context but for the results of the account: two runs with the same calls on
each symbol, in the same order there, show the same positions, digit for digit,
and the same mark prices, and on plain fills realized and unrealized results
that differ by no more than twice the drift of the turnover.
-/
theorem interleavingIrrelevant
    (ceiling defaultMark : Decimal)
    (first second : List MockOp)
    (ownIds : MockOp.OwnIds first)
    (sameCalls : ∀ symbol,
      MockOp.onSymbol symbol first = MockOp.onSymbol symbol second)
    (plain : PlainFills ceiling
      ((MockBinanceAdapter.create defaultMark).fills first))
    (marks :
      ((decimalMachine contextArithmetic).final (.create defaultMark)
        first).MarksWithin ceiling) :
    let fills := (MockBinanceAdapter.create defaultMark).fills first
    let one :=
      (decimalMachine contextArithmetic).final (.create defaultMark) first
    let other :=
      (decimalMachine contextArithmetic).final (.create defaultMark) second
    one.getPositions.Perm other.getPositions ∧
      (∀ symbol, one.getMarkPrice symbol = other.getMarkPrice symbol) ∧
      |one.getRealizedPnl - other.getRealizedPnl| ≤
        2 * (turnover fills * drift ceiling fills.length) ∧
      ∃ left right : Decimal,
        one.getUnrealizedPnlWith contextArithmetic = .ok left ∧
          other.getUnrealizedPnlWith contextArithmetic = .ok right ∧
          |left - right| ≤
            2 * (turnover fills * drift ceiling
              (fills.length + one.getPositions.length)) := by
  intro fills one other
  have ownSecond := ownIds.of_sameCalls sameCalls
  have permuted :=
    MockBinanceAdapter.fills_perm defaultMark ownIds sameCalls
  have plainSecond := plain.perm permuted
  have sameMarks : ∀ symbol,
      one.getMarkPrice symbol = other.getMarkPrice symbol := by
    intro symbol
    have left :=
      MockBinanceAdapter.getMarkPrice_alone defaultMark ownIds plain symbol
    rw [sameCalls] at left
    exact left.trans (MockBinanceAdapter.getMarkPrice_alone defaultMark
      ownSecond plainSecond symbol).symm
  have samePositions : one.getPositions.Perm other.getPositions := by
    apply OrderedDict.values_perm
    intro symbol
    have left :=
      MockBinanceAdapter.position_alone defaultMark ownIds plain symbol
    rw [sameCalls] at left
    exact left.trans (MockBinanceAdapter.position_alone defaultMark
      ownSecond plainSecond symbol).symm
  obtain ⟨sameRealized, sameUnrealized⟩ :=
    MockBinanceAdapter.exactResults_of_sameCalls defaultMark ownIds sameCalls
  refine ⟨samePositions, sameMarks, ?_, ?_⟩
  · have near :=
      MockBinanceAdapter.realizedPnl_decimal_near defaultMark plainSecond
    rw [sameRealized, ← turnover_perm permuted, ← permuted.length_eq]
      at near
    exact near_of_near
      (MockBinanceAdapter.realizedPnl_decimal_near defaultMark plain) near
  · obtain ⟨left, leftComputed, leftNear⟩ :=
      MockBinanceAdapter.unrealizedPnl_decimal_near defaultMark plain
        fun position _ => by
          rw [← MockBinanceAdapter.getMarkPrice_decimal defaultMark plain]
          exact marks position.symbol
    obtain ⟨right, rightComputed, rightNear⟩ :=
      MockBinanceAdapter.unrealizedPnl_decimal_near defaultMark plainSecond
        fun position _ => by
          rw [← MockBinanceAdapter.getMarkPrice_decimal defaultMark
            plainSecond]
          exact sameMarks position.symbol ▸ marks position.symbol
    rw [sameUnrealized, ← turnover_perm permuted, ← permuted.length_eq,
      ← MockBinanceAdapter.getPositions_decimal_length defaultMark
        plainSecond,
      ← samePositions.length_eq] at rightNear
    rw [← MockBinanceAdapter.getPositions_decimal_length defaultMark plain]
      at leftNear
    exact ⟨left, right, leftComputed, rightComputed,
      near_of_near leftNear rightNear⟩

/-- The same trading with the calls on ether first. -/
theorem interleavingIrrelevant_etherFirst :
    let one := (decimalMachine contextArithmetic).final (.create 100) twoSymbols
    let other :=
      (decimalMachine contextArithmetic).final (.create 100)
        ((MockOp.onSymbol "ETHUSDT" twoSymbols) ++
          MockOp.onSymbol "BTCUSDT" twoSymbols)
    one.getPositions.Perm other.getPositions :=
  (interleavingIrrelevant 120 100 twoSymbols
    ((MockOp.onSymbol "ETHUSDT" twoSymbols) ++
      MockOp.onSymbol "BTCUSDT" twoSymbols)
    (by decide +kernel)
    (by
      intro symbol
      have stored :
          twoSymbols.map MockOp.storedSymbol =
            ["BTCUSDT", "ETHUSDT", "BTCUSDT", "BTCUSDT", "ETHUSDT"] := by
        decide +kernel
      simp only [twoSymbols, List.map_cons, List.map_nil, List.cons.injEq,
        and_true] at stored
      obtain ⟨entry, ether, mark, exit, etherMark⟩ := stored
      by_cases bitcoin : "BTCUSDT" = symbol
      · subst bitcoin
        simp [MockOp.onSymbol, twoSymbols, entry, ether, mark, exit,
          etherMark]
      · by_cases isEther : "ETHUSDT" = symbol
        · subst isEther
          simp [MockOp.onSymbol, twoSymbols, entry, ether, mark, exit,
            etherMark]
        · simp [MockOp.onSymbol, twoSymbols, entry, ether, mark, exit,
            etherMark, bitcoin, isEther])
    plainFills_twoSymbols marksWithin_twoSymbols).1

end SafeSignalTrader
