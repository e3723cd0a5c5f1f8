import SafeSignalTrader.MockDecimalBooks

/-!
# Reading the unrealized result in the default context

`get_unrealized_pnl` adds up the results of the positions with rounding at
every step, over entry prices that were rounded before.  Both errors together
stay within the drift of the fills and of the positions that are read.
-/

namespace SafeSignalTrader

open DecimalContext
open PythonText
open RunSemantics

namespace MockBinanceAdapter

/-- The result of one position at a mark price, added to a total. -/
def addUnrealized
    (adapter : MockBinanceAdapter)
    (total : Decimal)
    (position : MockPosition) : Decimal :=
  if position.positionAmt = 0 then
    total
  else
    total + (adapter.getMarkPrice position.symbol - position.entryPrice) *
      position.positionAmt

/-- All mark prices are within a ceiling. -/
def MarksWithin (adapter : MockBinanceAdapter) (ceiling : Decimal) : Prop :=
  ∀ symbol, 0 ≤ adapter.getMarkPrice symbol ∧
    adapter.getMarkPrice symbol ≤ ceiling

/-- Mark prices are within a ceiling if the default and the set ones are. -/
theorem marksWithin_of_stored
    {adapter : MockBinanceAdapter}
    {ceiling : Decimal}
    (default : 0 ≤ adapter.defaultMark ∧ adapter.defaultMark ≤ ceiling)
    (stored : ∀ price ∈ adapter.markPrices.values,
      0 ≤ price ∧ price ≤ ceiling) :
    adapter.MarksWithin ceiling := by
  intro symbol
  unfold getMarkPrice
  cases marked : adapter.markPrices.get? (upperText symbol) with
  | none =>
      exact default
  | some price =>
      exact stored price
        (adapter.markPrices.mem_values_iff.mpr ⟨_, marked⟩)

end MockBinanceAdapter

/-- The quantity that positions hold, whatever their direction. -/
def heldSize (positions : List MockPosition) : Decimal :=
  (positions.map fun position => |position.positionAmt|).sum

theorem heldSize_nonneg (positions : List MockPosition) :
    0 ≤ heldSize positions := by
  apply List.sum_nonneg
  intro size member
  obtain ⟨position, _, rfl⟩ := List.mem_map.mp member
  exact abs_nonneg _

section Reading

variable {adapter : MockBinanceAdapter}
variable {ceiling near size total exactTotal : Decimal}
variable {fills : List Fill}

/-- One more position is read. -/
theorem BookedUpTo.addUnrealizedWith
    {actual exactly : MockPosition}
    (read : BookedUpTo ceiling near size total exactTotal)
    (marked : 0 ≤ adapter.getMarkPrice exactly.symbol ∧
      adapter.getMarkPrice exactly.symbol ≤ ceiling)
    (plain : PlainFills ceiling fills)
    (drifts : DriftsFrom ceiling near actual exactly)
    (inRange : size + |exactly.positionAmt| ≤ turnover fills) :
    ∃ next,
      adapter.addUnrealizedWith contextArithmetic total actual = .ok next ∧
        BookedUpTo ceiling (near + 2 * ceiling / 10 ^ 27)
          (size + |exactly.positionAmt|) next
          (adapter.addUnrealized exactTotal exactly) := by
  unfold MockBinanceAdapter.addUnrealizedWith
    MockBinanceAdapter.addUnrealized
  rw [drifts.positionAmt]
  by_cases flat : exactly.positionAmt = 0
  · have ceilingNonneg := le_of_lt plain.ceilingPositive
    rw [if_pos flat, if_pos flat, flat, abs_zero, add_zero]
    exact ⟨total, rfl,
      read.widen (le_add_of_nonneg_right (by positivity))⟩
  · have sameSymbol : actual.symbol = exactly.symbol := by
      rw [drifts.sameRest]
    obtain ⟨move, pnl, next, moved, multiplied, added, nextRead⟩ :=
      read.add plain drifts marked inRange
    rw [if_neg flat, if_neg flat]
    refine ⟨next, ?_, nextRead⟩
    simp only [sameSymbol, moved, multiplied, added, bind, Except.bind]

/-- Any number of positions are read. -/
theorem BookedUpTo.foldlM
    {count : Nat}
    {left right : List MockPosition}
    (read :
      BookedUpTo ceiling (drift ceiling count) size total exactTotal)
    (marked : ∀ position ∈ right,
      0 ≤ adapter.getMarkPrice position.symbol ∧
        adapter.getMarkPrice position.symbol ≤ ceiling)
    (plain : PlainFills ceiling fills)
    (drifts : List.Forall₂ (DriftsFrom ceiling near) left right)
    (covered : near ≤ drift ceiling count)
    (inRange : size + heldSize right ≤ turnover fills) :
    ∃ result,
      left.foldlM (adapter.addUnrealizedWith contextArithmetic) total =
          .ok result ∧
        |result - right.foldl adapter.addUnrealized exactTotal| ≤
          turnover fills * drift ceiling (count + right.length) := by
  induction drifts generalizing count size total exactTotal with
  | nil =>
      refine ⟨total, rfl, ?_⟩
      have sizeLe : size ≤ turnover fills := by
        simpa [heldSize] using inRange
      exact le_trans read.close
        (mul_le_mul_of_nonneg_right sizeLe (plain.drift_nonneg count))
  | @cons actual exactly leftRest rightRest driftsFirst _
      inductionHypothesis =>
      have sizes :
          heldSize (exactly :: rightRest) =
            |exactly.positionAmt| + heldSize rightRest := by
        simp [heldSize]
      rw [sizes, ← add_assoc] at inRange
      have firstLe : size + |exactly.positionAmt| ≤ turnover fills := by
        have restNonneg := heldSize_nonneg rightRest
        linarith
      obtain ⟨next, computed, nextRead⟩ :=
        read.addUnrealizedWith (marked exactly List.mem_cons_self) plain
          (driftsFirst.widen covered) firstLe
      rw [← drift_succ] at nextRead
      have further : near ≤ drift ceiling (count + 1) := by
        have ceilingPositive := plain.ceilingPositive
        rw [drift_succ]
        apply le_trans covered
        exact le_add_of_nonneg_right (by positivity)
      obtain ⟨result, folded, close⟩ :=
        inductionHypothesis nextRead
          (fun position member =>
            marked position (List.mem_cons_of_mem exactly member))
          further inRange
      refine ⟨result, ?_, ?_⟩
      · rw [List.foldlM_cons, computed]
        exact folded
      · rw [List.foldl_cons, List.length_cons, add_comm rightRest.length,
          ← add_assoc]
        exact close

end Reading

/-- The positions that are read of both books drift from each other. -/
theorem DriftingBooks.getPositions
    {ceiling realizedPnl closed : Decimal}
    {fills : List Fill}
    {exactly : MockBinanceAdapter}
    {positions : OrderedDict String MockPosition}
    (books :
      DriftingBooks ceiling fills exactly positions realizedPnl closed)
    (symbol : Option String) :
    List.Forall₂ (DriftsFrom ceiling (drift ceiling fills.length))
        ((exactly.withBooks positions realizedPnl).getPositions symbol)
        (exactly.getPositions symbol) ∧
      heldSize (exactly.getPositions symbol) ≤ turnover fills := by
  unfold MockBinanceAdapter.getPositions
  cases MockBinanceAdapter.truthy symbol with
  | none =>
      refine ⟨?_, ?_⟩
      · dsimp only
        rw [OrderedDict.values, OrderedDict.values,
          List.forall₂_map_left_iff, List.forall₂_map_right_iff]
        exact books.positions.forall₂.imp fun _ _ related => related.2
      · have all :
            heldSize exactly.positions.values = exactly.openSize := by
          simp [heldSize, MockBinanceAdapter.openSize, OrderedDict.total,
            OrderedDict.values, Function.comp_def]
        have moved := books.moved
        have closedNonneg := books.booked.nonneg
        dsimp only
        rw [all]
        linarith
  | some name =>
      dsimp only
      cases stored : positions.get? (upperText name) with
      | none =>
          have sameStored :
              (exactly.withBooks positions realizedPnl).positions.get?
                  (upperText name) = none := stored
          rw [sameStored, books.positions.get?_eq_none stored]
          exact ⟨List.Forall₂.nil, turnover_nonneg fills⟩
      | some actual =>
          obtain ⟨position, held, drifts⟩ :=
            books.positions.exists_right stored
          have sameStored :
              (exactly.withBooks positions realizedPnl).positions.get?
                  (upperText name) = some actual := stored
          rw [sameStored, held]
          refine ⟨List.Forall₂.cons drifts List.Forall₂.nil, ?_⟩
          have single :
              heldSize (some position).toList =
                |position.positionAmt| := by
            simp [heldSize]
          have sizeLe := books.size_le held
          have closedNonneg := books.booked.nonneg
          rw [single]
          linarith

/-- The unrealized result misses the exact one by the drift of the turnover. -/
theorem DriftingBooks.unrealizedPnl_near
    {ceiling realizedPnl closed : Decimal}
    {fills : List Fill}
    {exactly : MockBinanceAdapter}
    {positions : OrderedDict String MockPosition}
    {symbol : Option String}
    (books :
      DriftingBooks ceiling fills exactly positions realizedPnl closed)
    (plain : PlainFills ceiling fills)
    (marked : ∀ position ∈ exactly.getPositions symbol,
      0 ≤ exactly.getMarkPrice position.symbol ∧
        exactly.getMarkPrice position.symbol ≤ ceiling) :
    ∃ result,
      (exactly.withBooks positions realizedPnl).getUnrealizedPnlWith
          contextArithmetic symbol = .ok result ∧
        |result - exactly.getUnrealizedPnl symbol| ≤
          turnover fills * drift ceiling
            (fills.length + (exactly.getPositions symbol).length) := by
  obtain ⟨drifts, inRange⟩ := books.getPositions symbol
  exact (BookedUpTo.zero ceiling (drift ceiling fills.length)).foldlM marked
    plain drifts le_rfl ((zero_add _).trans_le inRange)

/--
In the default context the unrealized result of plain fills can be read, for
one symbol or for all, and misses the exact one by no more than the drift of
the fills and of the positions that are read.
-/
theorem contextReadsUnrealized
    (ceiling defaultMark : Decimal)
    (ops : List MockOp)
    (symbol : Option String)
    (plain : PlainFills ceiling
      ((MockBinanceAdapter.create defaultMark).fills ops))
    (marks :
      (mockMachine.final (.create defaultMark) ops).MarksWithin ceiling) :
    let fills := (MockBinanceAdapter.create defaultMark).fills ops
    let actual :=
      (decimalMachine contextArithmetic).final (.create defaultMark) ops
    let exactly := mockMachine.final (.create defaultMark) ops
    ∃ result,
      actual.getUnrealizedPnlWith contextArithmetic symbol = .ok result ∧
        |result - exactly.getUnrealizedPnl symbol| ≤
          turnover fills * drift ceiling
            (fills.length + (exactly.getPositions symbol).length) := by
  intro fills actual exactly
  obtain ⟨positions, realizedPnl, closed, final, books, _⟩ :=
    (DriftingBooks.initially ceiling defaultMark).run plain
  have isFinal : actual = exactly.withBooks positions realizedPnl := final
  rw [isFinal]
  exact books.unrealizedPnl_near plain fun position _ =>
    marks position.symbol

/-- The three units of `thirdOps` before they are sold. -/
theorem contextReadsUnrealized_thirds :
    ∃ result,
      ((decimalMachine contextArithmetic).final (.create 100)
          (thirdOps.take 4)).getUnrealizedPnlWith contextArithmetic
            (some "BTCUSDT") = .ok result ∧
        |result - 28| ≤ 3 * drift 110 3 := by
  have plain :
      PlainFills 110
        ((MockBinanceAdapter.create 100).fills (thirdOps.take 4)) := by
    have all := plainFills_thirds
    rw [← List.take_append_drop 4 thirdOps,
      MockBinanceAdapter.fills_append] at all
    exact all.of_append
  have marks :
      (mockMachine.final (.create 100) (thirdOps.take 4)).MarksWithin
        110 :=
    MockBinanceAdapter.marksWithin_of_stored (by decide +kernel)
      (by decide +kernel)
  have exactResult :
      (mockMachine.final (.create 100)
        (thirdOps.take 4)).getUnrealizedPnl (some "BTCUSDT") = 28 := by
    decide +kernel
  have size :
      turnover
        ((MockBinanceAdapter.create 100).fills (thirdOps.take 4)) = 3 := by
    decide +kernel
  have count :
      ((MockBinanceAdapter.create 100).fills (thirdOps.take 4)).length +
          ((mockMachine.final (.create 100)
            (thirdOps.take 4)).getPositions (some "BTCUSDT")).length =
        3 := by
    decide +kernel
  rw [← exactResult, ← size, ← count]
  exact contextReadsUnrealized 110 100 (thirdOps.take 4) (some "BTCUSDT")
    plain marks

end SafeSignalTrader
