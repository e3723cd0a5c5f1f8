import Mathlib.Algebra.Order.BigOperators.Group.List
import SafeSignalTrader.DecimalErrors

/-!
# Books in the default context

What the exchange adapter keeps when it computes in the default decimal
context.  On quantities of eight decimal places it keeps the amounts, the
orders and the replies of exact arithmetic; only entry prices and the realized
result are rounded, and how far they drift grows with the number of fills.
-/

namespace SafeSignalTrader

open DecimalContext
open PythonText
open RunSemantics

/-- The quantity that fills move, whatever their side. -/
def turnover (fills : List Fill) : Decimal :=
  (fills.map fun fill => |fill.signedQty|).sum

theorem turnover_append (first second : List Fill) :
    turnover (first ++ second) = turnover first + turnover second := by
  simp [turnover]

theorem turnover_singleton (fill : Fill) :
    turnover [fill] = |fill.signedQty| := by
  simp [turnover]

theorem turnover_nonneg (fills : List Fill) : 0 ≤ turnover fills := by
  apply List.sum_nonneg
  intro size member
  obtain ⟨fill, _, rfl⟩ := List.mem_map.mp member
  exact abs_nonneg _

/-- Fills at prices up to a ceiling that the context has digits for. -/
structure PlainFills (ceiling : Decimal) (fills : List Fill) : Prop where
  ceilingPositive : 0 < ceiling
  ceilingPlain : PlainAmount (10 ^ 19) ceiling
  quantity : ∀ fill ∈ fills, EightPlaces fill.signedQty
  price : ∀ fill ∈ fills, 0 ≤ fill.price ∧ fill.price ≤ ceiling
  worth : turnover fills * ceiling ≤ 10 ^ 11

namespace PlainFills

variable {ceiling amount : Decimal}
variable {fills rest : List Fill}

theorem of_append
    (plain : PlainFills ceiling (fills ++ rest)) :
    PlainFills ceiling fills where
  ceilingPositive := plain.ceilingPositive
  ceilingPlain := plain.ceilingPlain
  quantity := fun fill member =>
    plain.quantity fill (List.mem_append_left _ member)
  price := fun fill member =>
    plain.price fill (List.mem_append_left _ member)
  worth := by
    apply le_trans _ plain.worth
    apply mul_le_mul_of_nonneg_right _ (le_of_lt plain.ceilingPositive)
    rw [turnover_append]
    exact le_add_of_nonneg_right (turnover_nonneg rest)

/-- No number of fills drifts by less than nothing. -/
theorem drift_nonneg
    (plain : PlainFills ceiling fills)
    (count : Nat) :
    0 ≤ drift ceiling count := by
  have ceilingPositive := plain.ceilingPositive
  unfold drift
  positivity

/-- An amount that the fills can have moved keeps its digits. -/
theorem plainAmount
    (plain : PlainFills ceiling fills)
    (places : EightPlaces amount)
    (inRange : |amount| ≤ turnover fills) :
    PlainAmount (10 ^ 19) amount where
  places := places
  inRange := by
    have unit := plain.ceilingPlain.places.unit_le plain.ceilingPositive
    have scaled : turnover fills * (1 / 10 ^ 8) ≤ 10 ^ 11 :=
      le_trans (mul_le_mul_of_nonneg_left unit (turnover_nonneg fills))
        plain.worth
    linarith

/-- What such an amount is worth at the ceiling bounds its roundings. -/
theorem worthBound
    (plain : PlainFills ceiling fills)
    (places : EightPlaces amount)
    (nonneg : 0 ≤ amount)
    (inRange : amount ≤ turnover fills) :
    ShortBound (amount * ceiling) := by
  have ceilingNonneg := le_of_lt plain.ceilingPositive
  apply ShortBound.mul places plain.ceilingPlain.places
  rw [abs_of_nonneg (mul_nonneg nonneg ceilingNonneg)]
  exact le_trans (mul_le_mul_of_nonneg_right inRange ceilingNonneg)
    plain.worth

end PlainFills

/-- A position that differs from an exact one in its entry price alone. -/
structure DriftsFrom
    (ceiling near : Decimal)
    (actual exactly : MockPosition) : Prop where
  sameRest : actual = { exactly with entryPrice := actual.entryPrice }
  places : EightPlaces exactly.positionAmt
  nonneg : 0 ≤ actual.entryPrice
  inRange : actual.entryPrice ≤ ceiling
  close : |actual.entryPrice - exactly.entryPrice| ≤ near

namespace DriftsFrom

variable {ceiling near signedQty price : Decimal}
variable {actual exactly : MockPosition}
variable {fills : List Fill}

theorem positionAmt
    (drifts : DriftsFrom ceiling near actual exactly) :
    actual.positionAmt = exactly.positionAmt := by
  rw [drifts.sameRest]

theorem widen
    {wider : Decimal}
    (drifts : DriftsFrom ceiling near actual exactly)
    (widens : near ≤ wider) :
    DriftsFrom ceiling wider actual exactly :=
  { drifts with close := le_trans drifts.close widens }

/-- The averaged entry price, computed step by step and rounded each time. -/
theorem averagedWith
    (drifts : DriftsFrom ceiling near actual exactly)
    (plain : PlainFills ceiling fills)
    (signedPlaces : EightPlaces signedQty)
    (priced : 0 ≤ price ∧ price ≤ ceiling)
    (sameDirection :
      (0 < exactly.positionAmt ∧ 0 < signedQty) ∨
        (exactly.positionAmt < 0 ∧ signedQty < 0))
    (inRange : |exactly.positionAmt| + |signedQty| ≤ turnover fills) :
    ∃ oldNotional addNotional total entry,
      contextArithmetic.multiply |exactly.positionAmt|
          actual.entryPrice = .ok oldNotional ∧
        contextArithmetic.multiply |signedQty| price = .ok addNotional ∧
        contextArithmetic.add oldNotional addNotional = .ok total ∧
        contextArithmetic.divide total |exactly.positionAmt + signedQty| =
          .ok entry ∧
        0 ≤ entry ∧ entry ≤ ceiling ∧
        |entry - (exactly.filled signedQty price).entryPrice| ≤
          near + 2 * ceiling / 10 ^ 27 := by
  have ceilingNonneg := le_of_lt plain.ceilingPositive
  obtain ⟨heldPositive, addedPositive, size⟩ :=
    abs_add_of_sameDirection sameDirection
  have sizePositive := add_pos heldPositive addedPositive
  obtain ⟨oldNotional, oldComputed, oldRounds⟩ :=
    (plain.worthBound drifts.places.abs (abs_nonneg _)
      (le_trans (le_add_of_nonneg_right (abs_nonneg _))
        inRange)).finalize
      (worth_le (abs_nonneg _) drifts.nonneg drifts.inRange)
  obtain ⟨addNotional, addComputed, addRounds⟩ :=
    (plain.worthBound signedPlaces.abs (abs_nonneg _)
      (le_trans (le_add_of_nonneg_left (abs_nonneg _))
        inRange)).finalize
      (worth_le (abs_nonneg _) priced.1 priced.2)
  have costLe :
      |oldNotional + addNotional| ≤
        (|exactly.positionAmt| + |signedQty|) * ceiling := by
    rw [add_mul]
    exact le_trans (abs_add_le _ _)
      (add_le_add oldRounds.inRange addRounds.inRange)
  obtain ⟨total, totalComputed, totalRounds⟩ :=
    (plain.worthBound (drifts.places.abs.add signedPlaces.abs)
      (le_of_lt sizePositive) inRange).finalize costLe
  have quotientLe :
      |total / (|exactly.positionAmt| + |signedQty|)| ≤ ceiling := by
    rw [abs_div, abs_of_pos sizePositive, div_le_iff₀ sizePositive,
      mul_comm]
    exact totalRounds.inRange
  obtain ⟨entry, entryComputed, entryRounds⟩ :=
    plain.ceilingPlain.shortBound.finalize quotientLe
  have oldNonneg :=
    oldRounds.nonneg (mul_nonneg (abs_nonneg _) drifts.nonneg)
  have addNonneg :=
    addRounds.nonneg (mul_nonneg (abs_nonneg _) priced.1)
  have totalNonneg := totalRounds.nonneg (add_nonneg oldNonneg addNonneg)
  refine ⟨oldNotional, addNotional, total, entry, oldComputed, addComputed,
    totalComputed, ?_, ?_, ?_, ?_⟩
  · rw [size]
    exact (if_neg (ne_of_gt sizePositive)).trans entryComputed
  · exact entryRounds.nonneg
      (div_nonneg totalNonneg (le_of_lt sizePositive))
  · exact le_trans (le_abs_self _) entryRounds.inRange
  · simp only [MockPosition.filled, if_pos sameDirection, size]
    exact averaged_near heldPositive addedPositive ceilingNonneg
      drifts.close oldRounds addRounds totalRounds entryRounds

/-- A fill that does not close a position lets its entry price drift on. -/
theorem filledWith
    (drifts : DriftsFrom ceiling near actual exactly)
    (plain : PlainFills ceiling fills)
    (signedPlaces : EightPlaces signedQty)
    (priced : 0 ≤ price ∧ price ≤ ceiling)
    (inRange : |exactly.positionAmt| + |signedQty| ≤ turnover fills) :
    ∃ filled,
      actual.filledWith contextArithmetic signedQty price
          (exactly.positionAmt + signedQty) = .ok filled ∧
        DriftsFrom ceiling (near + 2 * ceiling / 10 ^ 27) filled
          (exactly.filled signedQty price) := by
  have newPlaces := drifts.places.add signedPlaces
  unfold MockPosition.filledWith
  rw [drifts.positionAmt]
  by_cases sameDirection :
      (0 < exactly.positionAmt ∧ 0 < signedQty) ∨
        (exactly.positionAmt < 0 ∧ signedQty < 0)
  · obtain ⟨oldNotional, addNotional, total, entry, oldComputed,
      addComputed, totalComputed, entryComputed, nonneg, withinCeiling,
      close⟩ :=
      drifts.averagedWith plain signedPlaces priced sameDirection inRange
    have held :
        contextArithmetic.magnitude exactly.positionAmt =
          .ok |exactly.positionAmt| :=
      magnitude_plain (plain.plainAmount drifts.places
        (le_trans (le_add_of_nonneg_right (abs_nonneg _)) inRange))
    have added :
        contextArithmetic.magnitude signedQty = .ok |signedQty| :=
      magnitude_plain (plain.plainAmount signedPlaces
        (le_trans (le_add_of_nonneg_left (abs_nonneg _)) inRange))
    have size :
        contextArithmetic.magnitude (exactly.positionAmt + signedQty) =
          .ok |exactly.positionAmt + signedQty| :=
      magnitude_plain (plain.plainAmount newPlaces
        (le_trans (abs_add_le _ _) inRange))
    refine ⟨{ actual with
      positionAmt := exactly.positionAmt + signedQty
      entryPrice := entry }, ?_, ?_, newPlaces, nonneg, withinCeiling,
      close⟩
    · simp only [if_pos sameDirection, held, oldComputed, added,
        addComputed, totalComputed, size, entryComputed, bind,
        Except.bind]
    · rw [drifts.sameRest]
      rfl
  · have ceilingNonneg := le_of_lt plain.ceilingPositive
    rw [if_neg sameDirection]
    refine ⟨_, rfl, ?_, newPlaces, drifts.nonneg, drifts.inRange, ?_⟩
    · rw [drifts.sameRest]
      rfl
    · simp only [MockPosition.filled, if_neg sameDirection]
      exact le_trans drifts.close
        (le_add_of_nonneg_right (by positivity))

end DriftsFrom

/--
A result that was booked over a quantity, next to the exact one: its error is
that of the prices times the quantity.
-/
structure BookedUpTo
    (ceiling near size total exactTotal : Decimal) : Prop where
  places : EightPlaces size
  nonneg : 0 ≤ size
  inRange : |total| ≤ size * ceiling
  close : |total - exactTotal| ≤ size * near

namespace BookedUpTo

variable {ceiling near size total exactTotal price : Decimal}
variable {actual exactly : MockPosition}
variable {fills : List Fill}

theorem zero (ceiling near : Decimal) : BookedUpTo ceiling near 0 0 0 where
  places := ⟨0, by norm_num⟩
  nonneg := le_rfl
  inRange := by
    rw [abs_zero, zero_mul]
  close := by
    rw [sub_self, abs_zero, zero_mul]

theorem widen
    {wider : Decimal}
    (booked : BookedUpTo ceiling near size total exactTotal)
    (widens : near ≤ wider) :
    BookedUpTo ceiling wider size total exactTotal :=
  { booked with
    close := le_trans booked.close
      (mul_le_mul_of_nonneg_left widens booked.nonneg) }

/-- The result of a position at a price is booked, rounded three times. -/
theorem add
    (booked : BookedUpTo ceiling near size total exactTotal)
    (plain : PlainFills ceiling fills)
    (drifts : DriftsFrom ceiling near actual exactly)
    (priced : 0 ≤ price ∧ price ≤ ceiling)
    (inRange : size + |exactly.positionAmt| ≤ turnover fills) :
    ∃ move pnl next,
      contextArithmetic.subtract price actual.entryPrice = .ok move ∧
        contextArithmetic.multiply move exactly.positionAmt = .ok pnl ∧
        contextArithmetic.add total pnl = .ok next ∧
        BookedUpTo ceiling (near + 2 * ceiling / 10 ^ 27)
          (size + |exactly.positionAmt|) next
          (exactTotal +
            (price - exactly.entryPrice) * exactly.positionAmt) := by
  have places := booked.places.add drifts.places.abs
  have nonneg := add_nonneg booked.nonneg (abs_nonneg exactly.positionAmt)
  have moveLe : |price - actual.entryPrice| ≤ ceiling := by
    have entryNonneg := drifts.nonneg
    have entryLe := drifts.inRange
    rw [abs_le]
    constructor <;> linarith
  obtain ⟨move, moveComputed, moveRounds⟩ :=
    plain.ceilingPlain.shortBound.finalize moveLe
  have pnlLe :
      |move * exactly.positionAmt| ≤ |exactly.positionAmt| * ceiling := by
    rw [abs_mul, mul_comm]
    exact mul_le_mul_of_nonneg_left moveRounds.inRange (abs_nonneg _)
  obtain ⟨pnl, pnlComputed, pnlRounds⟩ :=
    (plain.worthBound drifts.places.abs (abs_nonneg _)
      (le_trans (le_add_of_nonneg_left booked.nonneg)
        inRange)).finalize pnlLe
  have nextLe :
      |total + pnl| ≤ (size + |exactly.positionAmt|) * ceiling := by
    rw [add_mul]
    exact le_trans (abs_add_le _ _)
      (add_le_add booked.inRange pnlRounds.inRange)
  obtain ⟨next, nextComputed, nextRounds⟩ :=
    (plain.worthBound places nonneg inRange).finalize nextLe
  exact ⟨move, pnl, next, moveComputed, pnlComputed, nextComputed, places,
    nonneg, nextRounds.inRange,
    booked_near (le_of_lt plain.ceilingPositive) booked.nonneg
      drifts.close booked.close moveRounds pnlRounds nextRounds⟩

end BookedUpTo

namespace MockBinanceAdapter

/-- The quantity all positions hold, whatever their direction. -/
def openSize (adapter : MockBinanceAdapter) : Decimal :=
  adapter.positions.total fun _ position => |position.positionAmt|

/-- The quantity all positions but that of a symbol hold. -/
def otherSize (adapter : MockBinanceAdapter) (symbol : String) : Decimal :=
  (adapter.positions.erase symbol).total
    fun _ position => |position.positionAmt|

section Sizes

variable {adapter : MockBinanceAdapter}
variable {symbol : String}

theorem otherSize_nonneg : 0 ≤ adapter.otherSize symbol := by
  apply List.sum_nonneg
  intro size member
  obtain ⟨entry, _, rfl⟩ := List.mem_map.mp member
  exact abs_nonneg _

theorem openSize_held
    {position : MockPosition}
    (held : adapter.positions.get? symbol = some position) :
    adapter.openSize =
      adapter.otherSize symbol + |position.positionAmt| := by
  rw [openSize, adapter.positions.total_split _ symbol,
    OrderedDict.measureAt, held]
  rfl

theorem openSize_flat
    (flat : adapter.positions.get? symbol = none) :
    adapter.openSize = adapter.otherSize symbol := by
  rw [openSize, adapter.positions.total_split _ symbol,
    OrderedDict.measureAt, flat, add_zero]
  rfl

end Sizes

end MockBinanceAdapter

/--
Positions and a realized result that drift from those of an exact adapter, with
the quantity that was closed so far.
-/
structure DriftingBooks
    (ceiling : Decimal)
    (fills : List Fill)
    (exactly : MockBinanceAdapter)
    (positions : OrderedDict String MockPosition)
    (realizedPnl closed : Decimal) : Prop where
  moved : closed + exactly.openSize ≤ turnover fills
  positions :
    OrderedDict.Pointwise (DriftsFrom ceiling (drift ceiling fills.length))
      positions exactly.positions
  booked :
    BookedUpTo ceiling (drift ceiling fills.length) closed realizedPnl
      exactly.realizedPnl

namespace DriftingBooks

variable {ceiling realizedPnl closed : Decimal}
variable {past : List Fill}
variable {exactly : MockBinanceAdapter}
variable {positions : OrderedDict String MockPosition}
variable {symbol : String}
variable {side : OrderSide}
variable {quantity price : Decimal}
variable {reduceOnly : Bool}

/-- A fill that changes nothing. -/
theorem widen
    (books : DriftingBooks ceiling past exactly positions realizedPnl closed)
    (ceilingNonneg : 0 ≤ ceiling)
    (fill : Fill) :
    DriftingBooks ceiling (past ++ [fill]) exactly positions realizedPnl
      closed := by
  have further :
      drift ceiling past.length ≤ drift ceiling (past ++ [fill]).length := by
    rw [List.length_append, List.length_singleton, drift_succ]
    exact le_add_of_nonneg_right (by positivity)
  refine ⟨?_, ?_, books.booked.widen further⟩
  · rw [turnover_append]
    exact le_trans books.moved
      (le_add_of_nonneg_right (turnover_nonneg _))
  · exact books.positions.mono fun _ _ drifts => drifts.widen further

/-- The size of an open position is part of what was moved. -/
theorem size_le
    (books : DriftingBooks ceiling past exactly positions realizedPnl closed)
    {position : MockPosition}
    (held : exactly.positions.get? symbol = some position) :
    closed + |position.positionAmt| ≤ turnover past := by
  have moved := books.moved
  rw [MockBinanceAdapter.openSize_held held] at moved
  have others := @MockBinanceAdapter.otherSize_nonneg exactly symbol
  linarith

/-- The fill of an order as it is recorded. -/
abbrev recorded
    (symbol : String)
    (side : OrderSide)
    (quantity price : Decimal) : Fill :=
  ⟨symbol, side.signed quantity, price⟩

/-- What an open position and a fill on it move is part of what was moved. -/
theorem moved_le
    (books : DriftingBooks ceiling past exactly positions realizedPnl closed)
    {position : MockPosition}
    (held : exactly.positions.get? symbol = some position) :
    |position.positionAmt| + |side.signed quantity| ≤
      turnover (past ++ [recorded symbol side quantity price]) := by
  have sizeLe := books.size_le held
  have nonneg := books.booked.nonneg
  rw [turnover_append, turnover_singleton]
  linarith

/-- A fill on a flat symbol. -/
theorem open_flat
    (books : DriftingBooks ceiling past exactly positions realizedPnl closed)
    (plain : PlainFills ceiling
      (past ++ [recorded symbol side quantity price]))
    (flat : exactly.positions.get? symbol = none)
    (fresh : positions.get? symbol = none) :
    DriftingBooks ceiling (past ++ [recorded symbol side quantity price])
      (exactly.applyFill symbol side quantity price false)
      (positions.set symbol
        { symbol := symbol
          positionAmt := side.signed quantity
          entryPrice := price
          unrealizedProfit := 0
          leverage := 10 })
      realizedPnl closed := by
  have ceilingNonneg := le_of_lt plain.ceilingPositive
  have wider :=
    books.widen ceilingNonneg (recorded symbol side quantity price)
  have member :
      recorded symbol side quantity price ∈
        past ++ [recorded symbol side quantity price] := by simp
  rw [MockBinanceAdapter.applyFill_flat _ _ _ _ _ _ flat]
  refine { wider with moved := ?_, positions := ?_ }
  · have opened :
        (MockBinanceAdapter.openSize
          { exactly with
            positions := exactly.positions.set symbol
              { symbol := symbol
                positionAmt := side.signed quantity
                entryPrice := price
                unrealizedProfit := 0
                leverage := 10 } }) =
          exactly.otherSize symbol + |side.signed quantity| := by
      rw [MockBinanceAdapter.openSize, OrderedDict.total_split _ _ symbol,
        OrderedDict.erase_set, OrderedDict.measureAt, OrderedDict.get?_set,
        if_pos rfl]
      rfl
    have moved := books.moved
    rw [MockBinanceAdapter.openSize_flat flat] at moved
    simp only [Bool.false_eq_true, ↓reduceIte, opened, turnover_append,
      turnover_singleton]
    linarith
  · apply wider.positions.set_of_fresh fresh
    have priced := plain.price _ member
    refine ⟨rfl, plain.quantity _ member, priced.1, priced.2, ?_⟩
    rw [sub_self, abs_zero]
    unfold drift
    positivity

/-- A fill that closes a position books its rounded result. -/
theorem close_held
    (books : DriftingBooks ceiling past exactly positions realizedPnl closed)
    (plain : PlainFills ceiling
      (past ++ [recorded symbol side quantity price]))
    {actual position : MockPosition}
    (held : exactly.positions.get? symbol = some position)
    (stored : positions.get? symbol = some actual)
    (closes : position.positionAmt + side.signed quantity = 0) :
    ∃ move pnl booked,
      contextArithmetic.subtract price actual.entryPrice = .ok move ∧
        contextArithmetic.multiply move position.positionAmt = .ok pnl ∧
        contextArithmetic.add realizedPnl pnl = .ok booked ∧
        DriftingBooks ceiling
          (past ++ [recorded symbol side quantity price])
          (exactly.applyFill symbol side quantity price reduceOnly)
          (positions.erase symbol) booked
          (closed + |position.positionAmt|) := by
  have ceilingNonneg := le_of_lt plain.ceilingPositive
  have priced :
      0 ≤ price ∧ price ≤ ceiling :=
    plain.price (recorded symbol side quantity price) (by simp)
  obtain ⟨move, pnl, booked, moveComputed, pnlComputed, bookedComputed,
    next⟩ :=
    books.booked.add plain.of_append
      (books.positions.relatedAt stored held) priced (books.size_le held)
  refine ⟨move, pnl, booked, moveComputed, pnlComputed, bookedComputed, ?_⟩
  have wider :=
    books.widen ceilingNonneg (recorded symbol side quantity price)
  rw [MockBinanceAdapter.applyFill_closed _ _ _ _ _ _ held closes]
  refine ⟨?_, wider.positions.erase symbol, ?_⟩
  · have remaining :
        (MockBinanceAdapter.openSize
          { exactly with
            realizedPnl :=
              exactly.realizedPnl +
                (price - position.entryPrice) * position.positionAmt
            positions := exactly.positions.erase symbol }) =
          exactly.otherSize symbol := rfl
    have moved := wider.moved
    rw [MockBinanceAdapter.openSize_held held] at moved
    rw [remaining]
    linarith
  · rw [List.length_append, List.length_singleton, drift_succ]
    exact next

/-- A fill that changes a position and keeps it. -/
theorem keep_held
    (books : DriftingBooks ceiling past exactly positions realizedPnl closed)
    (plain : PlainFills ceiling
      (past ++ [recorded symbol side quantity price]))
    {actual position : MockPosition}
    (held : exactly.positions.get? symbol = some position)
    (stored : positions.get? symbol = some actual)
    (keeps : position.positionAmt + side.signed quantity ≠ 0) :
    ∃ filled,
      actual.filledWith contextArithmetic (side.signed quantity) price
          (position.positionAmt + side.signed quantity) = .ok filled ∧
        DriftingBooks ceiling
          (past ++ [recorded symbol side quantity price])
          (exactly.applyFill symbol side quantity price reduceOnly)
          (positions.modify symbol fun _ => filled) realizedPnl
          closed := by
  have ceilingNonneg := le_of_lt plain.ceilingPositive
  have drifts := books.positions.relatedAt stored held
  have member :
      recorded symbol side quantity price ∈
        past ++ [recorded symbol side quantity price] := by simp
  have inRange :
      |position.positionAmt| + |side.signed quantity| ≤
        turnover (past ++ [recorded symbol side quantity price]) :=
    books.moved_le held
  obtain ⟨filled, computed, filledDrifts⟩ :=
    drifts.filledWith plain (plain.quantity _ member) (plain.price _ member)
      inRange
  refine ⟨filled, computed, ?_⟩
  have wider :=
    books.widen ceilingNonneg (recorded symbol side quantity price)
  rw [MockBinanceAdapter.applyFill_kept _ _ _ _ _ _ held keeps]
  refine { wider with moved := ?_, positions := ?_ }
  · have resized :
        (MockBinanceAdapter.openSize
          { exactly with
            positions := exactly.positions.modify symbol fun position =>
              position.filled (side.signed quantity) price }) =
          exactly.otherSize symbol +
            |position.positionAmt + side.signed quantity| := by
      rw [MockBinanceAdapter.openSize, OrderedDict.total_split _ _ symbol,
        OrderedDict.erase_modify, OrderedDict.measureAt,
        OrderedDict.get?_modify, if_pos rfl, held]
      rfl
    have moved := books.moved
    rw [MockBinanceAdapter.openSize_held held] at moved
    have size :=
      abs_add_le position.positionAmt (side.signed quantity)
    rw [resized, turnover_append, turnover_singleton]
    linarith
  · dsimp only
    apply wider.positions.modify
    intro left right leftStored rightStored
    rw [held, Option.some.injEq] at rightStored
    rw [← rightStored, List.length_append, List.length_singleton,
      drift_succ]
    exact filledDrifts

/-- One fill in the default context. -/
theorem applyFillWith
    (books : DriftingBooks ceiling past exactly positions realizedPnl closed)
    (plain : PlainFills ceiling
      (past ++ [recorded symbol side quantity price]))
    (reduceOnly : Bool) :
    ∃ positions' realizedPnl' closed',
      (exactly.withBooks positions realizedPnl).applyFillWith
          contextArithmetic symbol side quantity price reduceOnly =
        .ok ((exactly.applyFill symbol side quantity price
          reduceOnly).withBooks positions' realizedPnl') ∧
      DriftingBooks ceiling (past ++ [recorded symbol side quantity price])
        (exactly.applyFill symbol side quantity price reduceOnly)
        positions' realizedPnl' closed' := by
  have ceilingNonneg := le_of_lt plain.ceilingPositive
  have signedPlain :
      PlainAmount (10 ^ 19) (side.signed quantity) := by
    refine plain.plainAmount
      (plain.quantity (recorded symbol side quantity price) (by simp)) ?_
    rw [turnover_append, turnover_singleton]
    exact le_add_of_nonneg_left (turnover_nonneg past)
  have signed :
      side.signedWith contextArithmetic quantity =
        .ok (side.signed quantity) :=
    signedWith_plain side (side.plain_of_signed signedPlain)
  have samePositions :
      (exactly.withBooks positions realizedPnl).positions = positions := rfl
  have sameResult :
      (exactly.withBooks positions realizedPnl).realizedPnl =
        realizedPnl := rfl
  simp only [MockBinanceAdapter.applyFillWith, signed, bind, Except.bind,
    samePositions, sameResult]
  cases stored : positions.get? symbol with
  | none =>
      have flat := books.positions.get?_eq_none stored
      cases reduceOnly with
      | true =>
          refine ⟨positions, realizedPnl, closed, ?_, ?_⟩
          · rw [MockBinanceAdapter.applyFill_flat _ _ _ _ _ _ flat]
            rfl
          · rw [MockBinanceAdapter.applyFill_flat _ _ _ _ _ _ flat]
            exact books.widen ceilingNonneg _
      | false =>
          refine ⟨_, realizedPnl, closed, ?_,
            books.open_flat plain flat stored⟩
          rw [MockBinanceAdapter.applyFill_flat _ _ _ _ _ _ flat]
          rfl
  | some actual =>
      obtain ⟨position, held, drifts⟩ := books.positions.exists_right stored
      have added :
          contextArithmetic.add position.positionAmt
              (side.signed quantity) =
            .ok (position.positionAmt + side.signed quantity) :=
        (plain.plainAmount (drifts.places.add signedPlain.places)
          (le_trans (abs_add_le _ _)
            (books.moved_le held))).finalize le_rfl
      simp only [drifts.positionAmt, added]
      by_cases closes : position.positionAmt + side.signed quantity = 0
      · obtain ⟨move, pnl, booked, moved, multiplied, summed, next⟩ :=
          books.close_held plain held stored closes
        refine ⟨_, booked, _, ?_, next⟩
        simp only [if_pos closes, moved, multiplied, summed]
        rw [MockBinanceAdapter.applyFill_closed _ _ _ _ _ _ held closes]
        rfl
      · obtain ⟨filled, computed, next⟩ :=
          books.keep_held plain held stored closes
        refine ⟨_, realizedPnl, closed, ?_, next⟩
        simp only [if_neg closes, computed]
        rw [MockBinanceAdapter.applyFill_kept _ _ _ _ _ _ held closes]
        rfl

/-- The books drift from those of any adapter with the same exact books. -/
theorem congr
    (books : DriftingBooks ceiling past exactly positions realizedPnl closed)
    {other : MockBinanceAdapter}
    (samePositions : other.positions = exactly.positions)
    (sameResult : other.realizedPnl = exactly.realizedPnl) :
    DriftingBooks ceiling past other positions realizedPnl closed where
  moved := by
    rw [MockBinanceAdapter.openSize, samePositions]
    exact books.moved
  positions := by
    rw [samePositions]
    exact books.positions
  booked := by
    rw [sameResult]
    exact books.booked

/-- One call in the default context. -/
theorem step
    {op : MockOp}
    (books : DriftingBooks ceiling past exactly positions realizedPnl closed)
    (plain : PlainFills ceiling (past ++ (exactly.fill? op).toList)) :
    ∃ positions' realizedPnl' closed',
      (exactly.withBooks positions realizedPnl).stepWith contextArithmetic
          op =
        ((exactly.step op).1.withBooks positions' realizedPnl',
          .ok (exactly.step op).2) ∧
      DriftingBooks ceiling (past ++ (exactly.fill? op).toList)
        (exactly.step op).1 positions' realizedPnl' closed' := by
  unfold MockBinanceAdapter.fill? at plain ⊢
  cases filled : exactly.filledOrder? op with
  | none =>
      have unfilled :=
        (exactly.filledOrder?_withBooks positions realizedPnl op).trans
          filled
      obtain ⟨samePositions, sameResult⟩ :=
        MockBinanceAdapter.step_unfilled filled
      refine ⟨positions, realizedPnl, closed, ?_, ?_⟩
      · rw [MockBinanceAdapter.stepWith_unfilled unfilled,
          MockBinanceAdapter.step_withBooks _ _ _ filled]
      · simpa using books.congr samePositions sameResult
  | some request =>
      obtain ⟨now, isOrder, stepped⟩ :=
        MockBinanceAdapter.step_filled filled
      subst isOrder
      rw [filled] at plain
      have fresh :
          exactly.clientToOrder.get? request.clientOrderId = none := by
        simp only [MockBinanceAdapter.filledOrder?,
          Option.ite_none_right_eq_some] at filled
        exact filled.1.1
      have recordedBooks :
          DriftingBooks ceiling past
            (exactly.record (exactly.orderOf request now)) positions
            realizedPnl closed :=
        books.congr rfl rfl
      obtain ⟨positions', realizedPnl', closed', computed, next⟩ :=
        recordedBooks.applyFillWith plain request.reduceOnly
      refine ⟨positions', realizedPnl', closed', ?_, ?_⟩
      · rw [MockBinanceAdapter.stepWith_filled
          ((exactly.filledOrder?_withBooks positions realizedPnl _).trans
            filled) computed, stepped]
        simp only [MockBinanceAdapter.step,
          MockBinanceAdapter.placeOrder_fresh fresh]
        rfl
      · rw [stepped]
        exact next

/-- A run in the default context, against the run in exact arithmetic. -/
theorem run
    {ops : List MockOp}
    (books : DriftingBooks ceiling past exactly positions realizedPnl closed)
    (plain : PlainFills ceiling (past ++ exactly.fills ops)) :
    ∃ positions' realizedPnl' closed',
      (decimalMachine contextArithmetic).final
          (exactly.withBooks positions realizedPnl) ops =
        (mockMachine.final exactly ops).withBooks positions' realizedPnl' ∧
      DriftingBooks ceiling (past ++ exactly.fills ops)
        (mockMachine.final exactly ops) positions' realizedPnl' closed' ∧
      ((decimalMachine contextArithmetic).trace
          (exactly.withBooks positions realizedPnl) ops).map
            Executed.reply =
        (mockMachine.trace exactly ops).map fun executed =>
          .ok executed.reply := by
  induction ops generalizing past exactly positions realizedPnl closed with
  | nil =>
      refine ⟨positions, realizedPnl, closed, rfl, ?_, rfl⟩
      simpa [MockBinanceAdapter.fills] using books
  | cons op rest inductionHypothesis =>
      rw [MockBinanceAdapter.fills, ← List.append_assoc] at plain
      obtain ⟨nextPositions, nextRealized, nextClosed, stepped, next⟩ :=
        books.step plain.of_append
      obtain ⟨positions', realizedPnl', closed', final, last, replies⟩ :=
        inductionHypothesis next plain
      have computed :
          (decimalMachine contextArithmetic).step
              (exactly.withBooks positions realizedPnl) op =
            ((exactly.step op).1.withBooks nextPositions nextRealized,
              .ok (exactly.step op).2) := stepped
      refine ⟨positions', realizedPnl', closed', ?_, ?_, ?_⟩
      · rw [Machine.final_cons, computed]
        exact final
      · rw [MockBinanceAdapter.fills, ← List.append_assoc]
        exact last
      · simp only [Machine.trace_cons, List.map_cons,
          Machine.execute_reply, computed]
        exact congrArg _ replies

/-- The realized result misses the exact one by the drift of the turnover. -/
theorem realizedPnl_near
    (books : DriftingBooks ceiling past exactly positions realizedPnl closed)
    (plain : PlainFills ceiling past) :
    |realizedPnl - exactly.realizedPnl| ≤
      turnover past * drift ceiling past.length := by
  have closedLe : closed ≤ turnover past := by
    have sizeNonneg : 0 ≤ exactly.openSize := by
      apply List.sum_nonneg
      intro size member
      obtain ⟨entry, _, rfl⟩ := List.mem_map.mp member
      exact abs_nonneg _
    exact le_trans (le_add_of_nonneg_right sizeNonneg) books.moved
  exact le_trans books.booked.close
    (mul_le_mul_of_nonneg_right closedLe (plain.drift_nonneg _))

/-- The books of a fresh adapter. -/
theorem initially (ceiling defaultMark : Decimal) :
    DriftingBooks ceiling [] (.create defaultMark) .empty 0 0 where
  moved := le_of_eq (zero_add _)
  positions := by
    refine ⟨rfl, ?_⟩
    intro key left right leftFound rightFound
    cases leftFound
  booked := .zero _ _

end DriftingBooks

/--
The default context raises nothing on plain fills, answers every call as exact
arithmetic does and keeps the same orders and amounts; the entry prices and the
realized result drift by a bounded number of last digits for each fill.
-/
theorem contextKeepsBooks
    (ceiling defaultMark : Decimal)
    (ops : List MockOp)
    (plain : PlainFills ceiling
      ((MockBinanceAdapter.create defaultMark).fills ops)) :
    let fills := (MockBinanceAdapter.create defaultMark).fills ops
    let actual :=
      (decimalMachine contextArithmetic).final (.create defaultMark) ops
    let exactly := mockMachine.final (.create defaultMark) ops
    ((decimalMachine contextArithmetic).trace (.create defaultMark)
          ops).map Executed.reply =
        ((mockMachine.trace (.create defaultMark) ops).map fun executed =>
          .ok executed.reply) ∧
      actual =
        exactly.withBooks actual.positions actual.realizedPnl ∧
      OrderedDict.Pointwise
        (fun position exactPosition =>
          position =
              { exactPosition with entryPrice := position.entryPrice } ∧
            |position.entryPrice - exactPosition.entryPrice| ≤
              drift ceiling fills.length)
        actual.positions exactly.positions ∧
      |actual.realizedPnl - exactly.realizedPnl| ≤
        turnover fills * drift ceiling fills.length := by
  intro fills actual exactly
  have initially := DriftingBooks.initially ceiling defaultMark
  obtain ⟨positions, realizedPnl, closed, final, books, replies⟩ :=
    initially.run plain
  have isFinal : actual = exactly.withBooks positions realizedPnl := final
  refine ⟨replies, ?_, ?_, ?_⟩
  · rw [isFinal]
    rfl
  · rw [isFinal]
    exact books.positions.mono fun _ _ drifts =>
      ⟨drifts.sameRest, drifts.close⟩
  · rw [isFinal]
    exact books.realizedPnl_near plain

/-- Three lots at a third of a cent apart, sold together. -/
def thirdOps : List MockOp :=
  [.placeOrder (btcOrder .buy 1 "first" false) 0,
    .setMarkPrice "BTCUSDT" 101,
    .placeOrder (btcOrder .buy 2 "second" false) 1,
    .setMarkPrice "BTCUSDT" 110,
    .placeOrder (btcOrder .sell 3 "exit" true) 2]

/-- One unit at 100 and two at 101, sold at 110, are plain fills. -/
theorem plainFills_thirds :
    PlainFills 110 ((MockBinanceAdapter.create 100).fills thirdOps) := by
  have fills :
      (MockBinanceAdapter.create 100).fills thirdOps =
        [⟨"BTCUSDT", 1, 100⟩, ⟨"BTCUSDT", 2, 101⟩,
          ⟨"BTCUSDT", -3, 110⟩] := by
    decide +kernel
  rw [fills]
  refine ⟨by norm_num, ⟨⟨110 * 10 ^ 8, by norm_num⟩, by norm_num⟩, ?_,
    by decide +kernel, by decide +kernel⟩
  intro fill member
  simp only [List.mem_cons, List.not_mem_nil, or_false] at member
  rcases member with rfl | rfl | rfl
  · exact ⟨10 ^ 8, by norm_num⟩
  · exact ⟨2 * 10 ^ 8, by norm_num⟩
  · exact ⟨-3 * 10 ^ 8, by norm_num⟩

/-- Averaged at 100.666..., the sale books 28 to within the drift. -/
theorem contextKeepsBooks_thirds :
    |((decimalMachine contextArithmetic).final (.create 100)
        thirdOps).realizedPnl - 28| ≤ 6 * drift 110 3 := by
  have exactResult :
      (mockMachine.final (.create 100) thirdOps).realizedPnl = 28 := by
    decide +kernel
  have size :
      turnover ((MockBinanceAdapter.create 100).fills thirdOps) = 6 := by
    decide +kernel
  have count :
      ((MockBinanceAdapter.create 100).fills thirdOps).length = 3 := by
    decide +kernel
  rw [← exactResult, ← size, ← count]
  exact (contextKeepsBooks 110 100 thirdOps plainFills_thirds).2.2.2

end SafeSignalTrader
