import Mathlib.Tactic.FieldSimp
import Mathlib.Tactic.Ring
import SafeSignalTrader.DictTotals
import SafeSignalTrader.MockReconciliation

/-!
# The profit ledger of the exchange adapter

Every fill earns its signed quantity times the move of the mark price since.
The adapter books a result only when a position is closed exactly, so what its
realized and unrealized results together miss is the sum, over the fills that
reduce or reverse a position without closing it, of the signed quantity times
the distance of the fill price from the entry price.
-/

namespace SafeSignalTrader

open PythonText
open RunSemantics

/-- One execution of an order. -/
structure Fill where
  symbol : String
  signedQty : Decimal
  price : Decimal
  deriving Repr, DecidableEq

/-- What a list of fills has earned at the mark prices of an adapter. -/
def markedResult (adapter : MockBinanceAdapter) (fills : List Fill) :
    Decimal :=
  (fills.map fun fill =>
    fill.signedQty * (adapter.getMarkPrice fill.symbol - fill.price)).sum

namespace MockBinanceAdapter

/-- The execution of an order at the price the adapter fills it at. -/
def fillOf (adapter : MockBinanceAdapter) (request : OrderRequest) :
    Fill where
  symbol := request.storedSymbol
  signedQty := request.signedQty
  price := adapter.fillPrice request

/-- The fill of one call, if it fills an order. -/
def fill? (adapter : MockBinanceAdapter) (op : MockOp) : Option Fill :=
  (adapter.filledOrder? op).map adapter.fillOf

/-- The fills of a run, oldest first. -/
def fills (adapter : MockBinanceAdapter) : List MockOp → List Fill
  | [] => []
  | op :: rest =>
      (adapter.fill? op).toList ++ (adapter.step op).1.fills rest

/-- The fills of two parts of a run. -/
theorem fills_append
    (adapter : MockBinanceAdapter)
    (first second : List MockOp) :
    adapter.fills (first ++ second) =
      adapter.fills first ++ (mockMachine.final adapter first).fills second := by
  induction first generalizing adapter with
  | nil =>
      rfl
  | cons op rest inductionHypothesis =>
      rw [List.cons_append, fills, fills, inductionHypothesis,
        List.append_assoc]
      rfl

/-- What the positions of an adapter cost at their entry prices. -/
def entryCost (adapter : MockBinanceAdapter) : Decimal :=
  adapter.positions.total fun _ position =>
    position.entryPrice * position.positionAmt

/-- What the booked result and the entry prices miss of the money paid. -/
def shortfall (adapter : MockBinanceAdapter) (fills : List Fill) : Decimal :=
  adapter.realizedPnl - adapter.entryCost +
    (fills.map fun fill => fill.signedQty * fill.price).sum

/-- The positions hold what the fills moved, under every weighting. -/
def Balanced (adapter : MockBinanceAdapter) (fills : List Fill) : Prop :=
  ∀ weight : String → Decimal,
    (adapter.positions.total fun symbol position =>
        weight symbol * position.positionAmt) =
      (fills.map fun fill => weight fill.symbol * fill.signedQty).sum

section Unrealized

/-- A loop that skips zero terms is a sum. -/
theorem foldl_skip_eq_sum
    {Item : Type}
    (skip : Item → Prop)
    [DecidablePred skip]
    (term : Item → Decimal)
    (zeroOfSkip : ∀ item, skip item → term item = 0)
    (items : List Item)
    (start : Decimal) :
    items.foldl (fun total item =>
        if skip item then total else total + term item) start =
      start + (items.map term).sum := by
  induction items generalizing start with
  | nil =>
      simp
  | cons item rest inductionHypothesis =>
      rw [List.foldl_cons, inductionHypothesis, List.map_cons, List.sum_cons]
      split
      · next skipped =>
          rw [zeroOfSkip item skipped, zero_add]
      · rw [add_assoc]

/-- The unrealized result of the account is that of all its positions. -/
theorem getUnrealizedPnl_eq
    {adapter : MockBinanceAdapter}
    (consistent : adapter.Consistent) :
    adapter.getUnrealizedPnl =
      (adapter.positions.total fun symbol position =>
        adapter.getMarkPrice symbol * position.positionAmt) -
        adapter.entryCost := by
  have looped :
      adapter.getUnrealizedPnl =
        adapter.positions.total fun _ position =>
          (adapter.getMarkPrice position.symbol - position.entryPrice) *
            position.positionAmt := by
    unfold getUnrealizedPnl
    rw [foldl_skip_eq_sum, zero_add, OrderedDict.total]
    · rw [getPositions, truthy]
      simp only [Option.filter_none, OrderedDict.values, List.map_map]
      rfl
    · intro position flat
      rw [flat, mul_zero]
  rw [looped, entryCost, ← OrderedDict.total_sub]
  apply OrderedDict.total_congr
  intro symbol position stored
  rw [consistent.positionSymbol stored, sub_mul]

/-- On balanced books the results add up exactly without a shortfall. -/
theorem conserved_iff_shortfall
    {adapter : MockBinanceAdapter}
    {fills : List Fill}
    (consistent : adapter.Consistent)
    (balanced : adapter.Balanced fills) :
    adapter.getRealizedPnl + adapter.getUnrealizedPnl =
        markedResult adapter fills ↔
      adapter.shortfall fills = 0 := by
  have marked :
      markedResult adapter fills =
        (fills.map fun fill =>
          adapter.getMarkPrice fill.symbol * fill.signedQty).sum -
          (fills.map fun fill => fill.signedQty * fill.price).sum := by
    rw [markedResult, eq_sub_iff_add_eq, ← List.sum_map_add]
    congr 2
    funext fill
    ring
  rw [getUnrealizedPnl_eq consistent, balanced adapter.getMarkPrice, marked,
    getRealizedPnl, shortfall]
  constructor
  · intro conserved
    linarith
  · intro none
    linarith

end Unrealized

section Filled

variable (adapter : MockBinanceAdapter)
variable (symbol : String)
variable (side : OrderSide)
variable (quantity price : Decimal)

/-- A fill leaves all other positions in place. -/
theorem applyFill_erase :
    (adapter.applyFill symbol side quantity price false).positions.erase
        symbol =
      adapter.positions.erase symbol := by
  cases held : adapter.positions.get? symbol with
  | none =>
      rw [applyFill_flat _ _ _ _ _ _ held]
      exact OrderedDict.erase_set _ _ _
  | some position =>
      by_cases closes : position.positionAmt + side.signed quantity = 0
      · rw [applyFill_closed _ _ _ _ _ _ held closes]
        exact OrderedDict.erase_erase _ _
      · rw [applyFill_kept _ _ _ _ _ _ held closes]
        exact OrderedDict.erase_modify _ _ _

/-- Under every weighting a fill moves the holdings by its quantity. -/
theorem weighted_applyFill (weight : String → Decimal) :
    ((adapter.applyFill symbol side quantity price false).positions.total
        fun other position => weight other * position.positionAmt) =
      (adapter.positions.total fun other position =>
        weight other * position.positionAmt) +
          weight symbol * side.signed quantity := by
  rw [OrderedDict.total_of_erase_eq
    (applyFill_erase adapter symbol side quantity price)]
  cases held : adapter.positions.get? symbol with
  | none =>
      rw [applyFill_flat _ _ _ _ _ _ held]
      simp [OrderedDict.measureAt, held, OrderedDict.get?_set]
  | some position =>
      by_cases closes : position.positionAmt + side.signed quantity = 0
      · rw [applyFill_closed _ _ _ _ _ _ held closes]
        have opposite :
            side.signed quantity = -position.positionAmt := by
          linarith
        simp only [OrderedDict.measureAt, held, OrderedDict.get?_erase,
          ↓reduceIte, opposite]
        ring
      · rw [applyFill_kept _ _ _ _ _ _ held closes]
        simp only [OrderedDict.measureAt, held, OrderedDict.get?_modify,
          ↓reduceIte, Option.map_some, MockPosition.filled]
        ring

/-- What a fill fails to book: its quantity times the price distance. -/
def slip : Decimal :=
  match adapter.positions.get? symbol with
  | none => 0
  | some position =>
      if position.positionAmt + side.signed quantity = 0 ∨
          (0 < position.positionAmt ∧ 0 < side.signed quantity) ∨
          (position.positionAmt < 0 ∧ side.signed quantity < 0) then
        0
      else
        side.signed quantity * (price - position.entryPrice)

/-- Adding to a position adds the price of what is added to its cost. -/
theorem cost_filled_of_same_direction
    {position : MockPosition}
    {signedQty : Decimal}
    (sameDirection :
      (0 < position.positionAmt ∧ 0 < signedQty) ∨
        (position.positionAmt < 0 ∧ signedQty < 0)) :
    (position.filled signedQty price).entryPrice *
        (position.filled signedQty price).positionAmt =
      position.entryPrice * position.positionAmt + signedQty * price := by
  simp only [MockPosition.filled, if_pos sameDirection]
  rcases sameDirection with long | short
  · have together : 0 < position.positionAmt + signedQty :=
      add_pos long.1 long.2
    rw [abs_of_pos long.1, abs_of_pos long.2, abs_of_pos together,
      div_mul_cancel₀ _ (ne_of_gt together)]
    ring
  · have together : position.positionAmt + signedQty < 0 :=
      add_neg short.1 short.2
    rw [abs_of_neg short.1, abs_of_neg short.2, abs_of_neg together,
      div_neg, neg_mul, div_mul_cancel₀ _ (ne_of_lt together)]
    ring

/-- A fill moves the booked result against the costs by all but its slip. -/
theorem booked_applyFill :
    (adapter.applyFill symbol side quantity price false).realizedPnl -
        (adapter.applyFill symbol side quantity price false).entryCost +
          side.signed quantity * price =
      adapter.realizedPnl - adapter.entryCost +
        slip adapter symbol side quantity price := by
  rw [entryCost, OrderedDict.total_of_erase_eq
    (applyFill_erase adapter symbol side quantity price), ← entryCost]
  cases held : adapter.positions.get? symbol with
  | none =>
      rw [applyFill_flat _ _ _ _ _ _ held, slip, held]
      simp only [OrderedDict.measureAt, held, OrderedDict.get?_set,
        Bool.false_eq_true, ↓reduceIte]
      ring
  | some position =>
      rw [slip, held]
      by_cases closes : position.positionAmt + side.signed quantity = 0
      · rw [applyFill_closed _ _ _ _ _ _ held closes]
        have opposite :
            side.signed quantity = -position.positionAmt := by
          linarith
        simp only [if_pos (Or.inl closes : _ ∨ _), OrderedDict.measureAt,
          held, OrderedDict.get?_erase, ↓reduceIte]
        rw [opposite]
        ring
      · rw [applyFill_kept _ _ _ _ _ _ held closes]
        simp only [OrderedDict.measureAt, held, OrderedDict.get?_modify,
          ↓reduceIte, Option.map_some, closes, false_or]
        by_cases sameDirection :
            (0 < position.positionAmt ∧ 0 < side.signed quantity) ∨
              (position.positionAmt < 0 ∧ side.signed quantity < 0)
        · rw [if_pos sameDirection,
            cost_filled_of_same_direction price sameDirection]
          ring
        · simp only [if_neg sameDirection, MockPosition.filled]
          ring

end Filled

section Steps

variable {adapter : MockBinanceAdapter}
variable {fills : List Fill}
variable {op : MockOp}

/-- One call keeps the books balanced. -/
theorem Balanced.step
    (balanced : adapter.Balanced fills)
    (opens : op.OpensFreely) :
    (adapter.step op).1.Balanced (fills ++ (adapter.fill? op).toList) := by
  intro weight
  rw [List.map_append, List.sum_append, ← balanced weight]
  cases filled : adapter.filledOrder? op with
  | none =>
      simp [fill?, filled, (step_unfilled filled).1]
  | some request =>
      obtain ⟨now, isOrder, stepped⟩ := step_filled filled
      subst isOrder
      rw [stepped, opens.1, weighted_applyFill, fill?, filled]
      simp [fillOf, record, OrderRequest.signedQty]

/-- The slip of the fill of one call; zero without a fill. -/
def slipOf (adapter : MockBinanceAdapter) (op : MockOp) : Decimal :=
  match adapter.filledOrder? op with
  | none => 0
  | some request =>
      slip adapter request.storedSymbol request.side request.quantity
        (adapter.fillPrice request)

/-- One call adds the slip of its fill to the shortfall. -/
theorem shortfall_step
    (opens : op.OpensFreely) :
    (adapter.step op).1.shortfall (fills ++ (adapter.fill? op).toList) =
      adapter.shortfall fills + slipOf adapter op := by
  unfold slipOf
  cases filled : adapter.filledOrder? op with
  | none =>
      simp [shortfall, entryCost, fill?, filled, step_unfilled filled]
  | some request =>
      obtain ⟨now, isOrder, stepped⟩ := step_filled filled
      subst isOrder
      have booked :=
        booked_applyFill (adapter.record (adapter.orderOf request now))
          request.storedSymbol request.side request.quantity
          (adapter.fillPrice request)
      have recordedCost :
          (adapter.record (adapter.orderOf request now)).entryCost =
            adapter.entryCost :=
        rfl
      have recordedSlip :
          slip (adapter.record (adapter.orderOf request now))
              request.storedSymbol request.side request.quantity
              (adapter.fillPrice request) =
            slip adapter request.storedSymbol request.side request.quantity
              (adapter.fillPrice request) :=
        rfl
      have recordedResult :
          (adapter.record (adapter.orderOf request now)).realizedPnl =
            adapter.realizedPnl :=
        rfl
      rw [recordedCost, recordedSlip, recordedResult] at booked
      rw [stepped, opens.1, shortfall, shortfall, fill?, filled]
      simp only [Option.map_some, Option.toList_some, List.map_append,
        List.sum_append, List.map_cons, List.map_nil, List.sum_cons,
        List.sum_nil, fillOf, OrderRequest.signedQty]
      linarith

/--
A call settles: an order that reduces or reverses a position without closing
it exactly is filled at the entry price of the position.
-/
def Settles (adapter : MockBinanceAdapter) (op : MockOp) : Prop :=
  ∀ request ∈ adapter.filledOrder? op,
    ∀ position ∈ adapter.positions.get? request.storedSymbol,
      position.positionAmt * request.signedQty < 0 →
      position.positionAmt + request.signedQty ≠ 0 →
        adapter.fillPrice request = position.entryPrice

instance decidableSettles
    (adapter : MockBinanceAdapter)
    (op : MockOp) :
    Decidable (adapter.Settles op) :=
  inferInstanceAs (Decidable (∀ request ∈ adapter.filledOrder? op,
    ∀ position ∈ adapter.positions.get? request.storedSymbol,
      position.positionAmt * request.signedQty < 0 →
      position.positionAmt + request.signedQty ≠ 0 →
        adapter.fillPrice request = position.entryPrice))

/-- Nothing slips exactly if the call settles. -/
theorem slipOf_eq_zero_iff
    (nonzero : adapter.HoldsNonzero)
    (opens : op.OpensFreely) :
    slipOf adapter op = 0 ↔ adapter.Settles op := by
  unfold slipOf
  cases filled : adapter.filledOrder? op with
  | none =>
      refine iff_of_true rfl ?_
      intro request isFilled
      rw [filled] at isFilled
      cases isFilled
  | some request =>
      obtain ⟨now, isOrder, stepped⟩ := step_filled filled
      subst isOrder
      have moves := OrderRequest.signedQty_ne_zero opens.2
      have settlesIff :
          adapter.Settles (.placeOrder request now) ↔
            ∀ position,
              adapter.positions.get? request.storedSymbol = some position →
              position.positionAmt * request.signedQty < 0 →
              position.positionAmt + request.signedQty ≠ 0 →
                adapter.fillPrice request = position.entryPrice := by
        constructor
        · intro settles
          exact settles request filled
        · intro settles other isFilled
          rw [filled] at isFilled
          cases isFilled
          exact settles
      rw [settlesIff]
      dsimp only
      rw [slip]
      cases held : adapter.positions.get? request.storedSymbol with
      | none =>
          simp
      | some position =>
          have amountNonzero := nonzero _ _ held
          have oppositeIff :
              position.positionAmt * request.signedQty < 0 ↔
                ¬ ((0 < position.positionAmt ∧ 0 < request.signedQty) ∨
                  (position.positionAmt < 0 ∧ request.signedQty < 0)) := by
            rw [← mul_pos_iff, not_lt]
            constructor
            · exact le_of_lt
            · intro nonpos
              exact lt_of_le_of_ne nonpos (mul_ne_zero amountNonzero moves)
          simp only [Option.some.injEq, forall_eq', oppositeIff]
          have signed :
              request.side.signed request.quantity = request.signedQty :=
            rfl
          rw [signed]
          split
          · next settled =>
              refine iff_of_true rfl ?_
              intro opposite notClosed
              rcases settled with closes | sameDirection
              · exact absurd closes notClosed
              · exact absurd sameDirection opposite
          · next slips =>
              rw [not_or] at slips
              rw [mul_eq_zero, or_iff_right moves, sub_eq_zero]
              constructor
              · intro samePrice _ _
                exact samePrice
              · intro settles
                exact settles slips.2 slips.1

end Steps

section Runs

variable {defaultMark : Decimal}
variable {ops : List MockOp}

/-- The books of a run are balanced. -/
theorem balanced_final
    (opens : ∀ op ∈ ops, op.OpensFreely) :
    (mockMachine.final (create defaultMark) ops).Balanced
      ((create defaultMark).fills ops) := by
  induction ops using List.reverseRecOn with
  | nil =>
      intro weight
      rfl
  | append_singleton earlier op inductionHypothesis =>
      have balanced :=
        inductionHypothesis fun other member =>
          opens other (List.mem_append_left _ member)
      have opensLast : op.OpensFreely :=
        opens op (List.mem_append_right _ List.mem_cons_self)
      rw [mockMachine.final_append, fills_append]
      simpa [fills] using balanced.step opensLast

/-- The results of a run add up exactly if nothing slipped so far. -/
theorem conserved_final_iff
    (opens : ∀ op ∈ ops, op.OpensFreely) :
    (mockMachine.final (create defaultMark) ops).getRealizedPnl +
          (mockMachine.final (create defaultMark) ops).getUnrealizedPnl =
        markedResult (mockMachine.final (create defaultMark) ops)
          ((create defaultMark).fills ops) ↔
      (mockMachine.final (create defaultMark) ops).shortfall
        ((create defaultMark).fills ops) = 0 :=
  conserved_iff_shortfall
    (MockReachable.of_run defaultMark ops).consistent
    (balanced_final opens)

end Runs

end MockBinanceAdapter

/--
The realized and unrealized results of a run add up to what its fills earned,
in every state, exactly if every order that reduces or reverses a position
without closing it is filled at the entry price of the position.
-/
theorem pnlConserved_iff
    (defaultMark : Decimal)
    (ops : List MockOp)
    (opens : ∀ op ∈ ops, op.OpensFreely) :
    (∀ earlier later, ops = earlier ++ later →
        (mockMachine.final (.create defaultMark) earlier).getRealizedPnl +
            (mockMachine.final (.create defaultMark)
              earlier).getUnrealizedPnl =
          markedResult (mockMachine.final (.create defaultMark) earlier)
            ((MockBinanceAdapter.create defaultMark).fills earlier)) ↔
      ∀ executed ∈ mockMachine.trace (.create defaultMark) ops,
        executed.before.Settles executed.op := by
  rw [mockMachine.forall_mem_trace_iff]
  apply forall_prefix_iff
  · exact zero_add (0 : Decimal)
  · intro earlier op later shape conserved
    have opensThrough : ∀ other ∈ earlier ++ [op], other.OpensFreely := by
      intro other member
      apply opens other
      rw [shape, List.append_cons]
      exact List.mem_append_left later member
    have opensEarlier : ∀ other ∈ earlier, other.OpensFreely :=
      fun other member =>
        opensThrough other (List.mem_append_left _ member)
    have opensLast : op.OpensFreely :=
      opensThrough op (List.mem_append_right _ List.mem_cons_self)
    have noShortfall :=
      (MockBinanceAdapter.conserved_final_iff opensEarlier).mp conserved
    rw [MockBinanceAdapter.conserved_final_iff opensThrough,
      ← MockBinanceAdapter.slipOf_eq_zero_iff
        (MockBinanceAdapter.holdsNonzero_final opensEarlier) opensLast]
    have stepped :=
      @MockBinanceAdapter.shortfall_step
        (mockMachine.final (.create defaultMark) earlier)
        ((MockBinanceAdapter.create defaultMark).fills earlier) op opensLast
    rw [noShortfall, zero_add] at stepped
    rw [mockMachine.final_append, MockBinanceAdapter.fills_append, ← stepped]
    simp [MockBinanceAdapter.fills]

namespace MockOp

/-- A market order that is not reduce-only, or a change of a mark price. -/
def TradesAtMarket : MockOp → Prop
  | .placeOrder request _ =>
      request.isMarket = true ∧ request.reduceOnly = false ∧
        0 < request.quantity
  | .setMarkPrice _ _ => True
  | _ => False

instance decidableTradesAtMarket : DecidablePred TradesAtMarket
  | .placeOrder _ _ => inferInstanceAs (Decidable (_ ∧ _ ∧ _))
  | .setMarkPrice _ _ => isTrue trivial
  | .cancelOrder _ _ => isFalse id
  | .placeStop _ _ => isFalse id
  | .replaceStop _ _ => isFalse id
  | .cancelProtection _ _ => isFalse id

end MockOp

/-- A long position closed at once at a higher price settles. -/
theorem pnlConserved_closed :
    let ops : List MockOp :=
      [.placeOrder (btcOrder .buy 2 "entry" false) 0,
        .setMarkPrice "BTCUSDT" 110,
        .placeOrder (btcOrder .sell 2 "exit" false) 1]
    (mockMachine.final (.create 100) ops).getRealizedPnl +
        (mockMachine.final (.create 100) ops).getUnrealizedPnl =
      markedResult (mockMachine.final (.create 100) ops)
        ((MockBinanceAdapter.create 100).fills ops) :=
  (pnlConserved_iff 100 _ (by decide +kernel)).mpr (by decide +kernel) _ []
    (List.append_nil _).symm

/-- Selling half of a long position at a profit loses that half's profit. -/
theorem partial_close_unbooked :
    ¬ ∀ (defaultMark : Decimal) (ops : List MockOp),
      (∀ op ∈ ops, op.TradesAtMarket) →
      (MockOp.submittedIds ops).Nodup →
        (mockMachine.final (.create defaultMark) ops).getRealizedPnl +
            (mockMachine.final (.create defaultMark) ops).getUnrealizedPnl =
          markedResult (mockMachine.final (.create defaultMark) ops)
            ((MockBinanceAdapter.create defaultMark).fills ops) := by
  intro conserved
  have halfClosed :=
    conserved 100
      [.placeOrder (btcOrder .buy 2 "entry" false) 0,
        .setMarkPrice "BTCUSDT" 110,
        .placeOrder (btcOrder .sell 1 "exit" false) 1]
      (by decide +kernel) (by decide +kernel)
  exact absurd halfClosed (by decide +kernel)

end SafeSignalTrader
