import Mathlib.Algebra.Order.Ring.Abs
import SafeSignalTrader.MockDecimalFills

/-!
# Reduce-only orders

A fill reads its reduce-only flag only when no position is stored.  On a
position the flag has no effect, so whether it is honoured depends on the
side and the size of the order, on what rounding makes of the sum, and on
whether the fill raises.
-/

namespace SafeSignalTrader

open DecimalContext
open RunSemantics

/--
A position only shrank toward zero: it did not grow, and it did not change
its sign.
-/
structure ReduceOnlyHonoured (before after : Decimal) : Prop where
  noGrowth : |after| ≤ |before|
  longStays : 0 < before → 0 ≤ after
  shortStays : before < 0 → after ≤ 0

/-- What does not move was not opened or turned. -/
theorem ReduceOnlyHonoured.refl (amount : Decimal) :
    ReduceOnlyHonoured amount amount :=
  ⟨le_refl _, le_of_lt, le_of_lt⟩

/-- How much rounding to the digits of the context adds to a size. -/
def roundingGain (number : Decimal) : Decimal :=
  |defaultContext.rounded number| - |number|

/--
The signed quantities that reduce an amount: the sum vanishes; or an opposite
quantity does not outsize the amount and rounding adds no more to the sum than
the quantity took off; or rounding takes off again what a quantity on the side
of the amount added.
-/
inductive Reduces (amount signedQty : Decimal) : Prop where
  | vanishes
      (empty : defaultContext.rounded (amount + signedQty) = 0)
  | shrinks
      (opposite : amount * signedQty < 0)
      (fits : |signedQty| ≤ |amount|)
      (gain : roundingGain (amount + signedQty) ≤ |signedQty|)
  | absorbed
      (sameSide : 0 ≤ amount * signedQty)
      (loss : roundingGain (amount + signedQty) ≤ -|signedQty|)

/-- A position that is closed was not opened or turned. -/
theorem ReduceOnlyHonoured.closed (amount : Decimal) :
    ReduceOnlyHonoured amount 0 :=
  ⟨by rw [abs_zero]; exact abs_nonneg amount, fun _ => le_refl 0,
    fun _ => le_refl 0⟩

section Rounding

variable {amount signedQty : Decimal}

/-- An opposite quantity that fits takes off its size. -/
theorem abs_add_of_fits
    (opposite : amount * signedQty < 0)
    (fits : |signedQty| ≤ |amount|) :
    |amount + signedQty| = |amount| - |signedQty| := by
  rcases mul_neg_iff.mp opposite with long | short
  · rw [abs_of_neg long.2, abs_of_pos long.1] at fits ⊢
    rw [abs_of_nonneg (by linarith)]
    ring
  · rw [abs_of_pos short.2, abs_of_neg short.1] at fits ⊢
    rw [abs_of_nonpos (by linarith)]
    ring

/-- A quantity on the side of an amount adds its size. -/
theorem abs_add_of_sameSide (sameSide : 0 ≤ amount * signedQty) :
    |amount + signedQty| = |amount| + |signedQty| :=
  abs_add_eq_add_abs_iff amount signedQty |>.mpr
    (mul_nonneg_iff.mp sameSide)

/-- An opposite quantity that leaves an honoured amount fits into it. -/
theorem fits_of_honoured
    (honoured :
      ReduceOnlyHonoured amount
        (defaultContext.rounded (amount + signedQty)))
    (opposite : amount * signedQty < 0)
    (remains : defaultContext.rounded (amount + signedQty) ≠ 0) :
    |signedQty| ≤ |amount| := by
  by_contra outsizes
  rw [not_le] at outsizes
  apply remains
  rcases mul_neg_iff.mp opposite with long | short
  · rw [abs_of_neg long.2, abs_of_pos long.1] at outsizes
    exact le_antisymm (Context.rounded_nonpos (by linarith))
      (honoured.longStays long.1)
  · rw [abs_of_pos short.2, abs_of_neg short.1] at outsizes
    exact le_antisymm (honoured.shortStays short.1)
      (Context.rounded_nonneg (by linarith))

/-- The rounded sum lies between zero and the amount if the change reduces. -/
theorem reduceOnlyHonoured_rounded_iff :
    ReduceOnlyHonoured amount (defaultContext.rounded (amount + signedQty)) ↔
      Reduces amount signedQty := by
  constructor
  · intro honoured
    have smaller := honoured.noGrowth
    by_cases empty : defaultContext.rounded (amount + signedQty) = 0
    · exact .vanishes empty
    · rcases lt_or_ge (amount * signedQty) 0 with opposite | sameSide
      · have fits := fits_of_honoured honoured opposite empty
        refine .shrinks opposite fits ?_
        rw [roundingGain, abs_add_of_fits opposite fits]
        linarith
      · refine .absorbed sameSide ?_
        rw [roundingGain, abs_add_of_sameSide sameSide]
        linarith
  · intro reduces
    cases reduces with
    | vanishes empty =>
        rw [empty]
        exact .closed amount
    | shrinks opposite fits gain =>
        rw [roundingGain, abs_add_of_fits opposite fits] at gain
        refine ⟨by linarith, ?_, ?_⟩
        · intro long
          rw [abs_of_pos long] at fits
          exact Context.rounded_nonneg
            (by linarith [neg_le_of_abs_le fits])
        · intro short
          rw [abs_of_neg short] at fits
          exact Context.rounded_nonpos (by linarith [le_of_abs_le fits])
    | absorbed sameSide loss =>
        rw [roundingGain, abs_add_of_sameSide sameSide] at loss
        refine ⟨by linarith, ?_, ?_⟩
        · intro long
          have added := (mul_nonneg_iff_of_pos_left long).mp sameSide
          exact Context.rounded_nonneg (by linarith)
        · intro short
          have added := nonpos_of_mul_nonneg_right sameSide short
          exact Context.rounded_nonpos (by linarith)

end Rounding

/-- No step of averaging an entry price overflows. -/
def MockPosition.AveragesInRange
    (position : MockPosition)
    (signedQty price newQty : Decimal) : Prop :=
  let held := defaultContext.rounded |position.positionAmt|
  let oldNotional := defaultContext.rounded (held * position.entryPrice)
  let added := defaultContext.rounded |signedQty|
  let addNotional := defaultContext.rounded (added * price)
  let total := defaultContext.rounded (oldNotional + addNotional)
  let size := defaultContext.rounded |newQty|
  InRange |position.positionAmt| ∧ InRange (held * position.entryPrice) ∧
    InRange |signedQty| ∧ InRange (added * price) ∧
      InRange (oldNotional + addNotional) ∧ InRange |newQty| ∧
        InRange (total / size)

/-- A signed quantity has the direction of a position. -/
def MockPosition.SameDirection
    (position : MockPosition)
    (signedQty : Decimal) : Prop :=
  (0 < position.positionAmt ∧ 0 < signedQty) ∨
    (position.positionAmt < 0 ∧ signedQty < 0)

/-- No step of a fill on a position that keeps it overflows. -/
structure MockPosition.FillsInRange
    (position : MockPosition)
    (side : OrderSide)
    (quantity price : Decimal) : Prop where
  signed : side.SignInRange quantity
  summed : InRange (position.positionAmt + side.roundedSigned quantity)
  averaged :
    position.SameDirection (side.roundedSigned quantity) →
      position.AveragesInRange (side.roundedSigned quantity) price
        (defaultContext.rounded
          (position.positionAmt + side.roundedSigned quantity))

/-- A fill that keeps a position computes exactly if nothing overflows. -/
theorem filledWith_computes_iff
    {position : MockPosition}
    {signedQty price amount : Decimal}
    (keeps : defaultContext.rounded amount ≠ 0) :
    (∃ kept,
      position.filledWith contextArithmetic signedQty price
        (defaultContext.rounded amount) = .ok kept) ↔
      (position.SameDirection signedQty →
        position.AveragesInRange signedQty price
          (defaultContext.rounded amount)) := by
  have sized :
      defaultContext.rounded |defaultContext.rounded amount| ≠ 0 := by
    rw [Context.rounded_abs, Context.rounded_rounded]
    exact abs_ne_zero.mpr keeps
  have multiplies : ∀ first second result,
      contextArithmetic.multiply first second = .ok result ↔
        InRange (first * second) ∧
          defaultContext.rounded (first * second) = result :=
    fun _ _ _ => finalize_eq_ok_iff
  have adds : ∀ first second result,
      contextArithmetic.add first second = .ok result ↔
        InRange (first + second) ∧
          defaultContext.rounded (first + second) = result :=
    fun _ _ _ => finalize_eq_ok_iff
  have divides : ∀ total result,
      contextArithmetic.divide total
          (defaultContext.rounded |defaultContext.rounded amount|) =
            .ok result ↔
        InRange (total /
            defaultContext.rounded |defaultContext.rounded amount|) ∧
          defaultContext.rounded (total /
            defaultContext.rounded |defaultContext.rounded amount|) =
              result := by
    intro total result
    rw [← finalize_eq_ok_iff]
    exact Eq.congr_left (if_neg sized)
  unfold MockPosition.filledWith MockPosition.SameDirection
  dsimp only
  by_cases sameDirection :
      (0 < position.positionAmt ∧ 0 < signedQty) ∨
        (position.positionAmt < 0 ∧ signedQty < 0)
  · rw [if_pos sameDirection, MockPosition.AveragesInRange]
    simp only [bind_eq_ok_iff, magnitude_eq_ok_iff, multiplies, adds]
    constructor
    · rintro ⟨_, _, ⟨heldInRange, rfl⟩, _, ⟨oldInRange, rfl⟩, _,
        ⟨addedInRange, rfl⟩, _, ⟨addInRange, rfl⟩, _, ⟨totalInRange, rfl⟩, _,
        ⟨sizeInRange, rfl⟩, _, averaged, _⟩ _
      exact ⟨heldInRange, oldInRange, addedInRange, addInRange, totalInRange,
        sizeInRange, ((divides _ _).mp averaged).1⟩
    · intro inRange
      obtain ⟨heldInRange, oldInRange, addedInRange, addInRange,
        totalInRange, sizeInRange, averageInRange⟩ := inRange sameDirection
      exact ⟨_, _, ⟨heldInRange, rfl⟩, _, ⟨oldInRange, rfl⟩, _,
        ⟨addedInRange, rfl⟩, _, ⟨addInRange, rfl⟩, _, ⟨totalInRange, rfl⟩, _,
        ⟨sizeInRange, rfl⟩, _,
        (divides _ _).mpr ⟨averageInRange, rfl⟩, rfl⟩
  · rw [if_neg sameDirection]
    exact iff_of_true ⟨_, rfl⟩ fun same => absurd same sameDirection

namespace MockBinanceAdapter

variable {adapter filled : MockBinanceAdapter}
variable {symbol : String}
variable {side : OrderSide}
variable {quantity price : Decimal}
variable {reduceOnly : Bool}
variable {position : MockPosition}

/-- What a fill that does not raise leaves of an amount that is held. -/
theorem positionAmt_of_fillMove
    (move :
      FillMove contextArithmetic adapter symbol side quantity price reduceOnly
        filled)
    (held : adapter.positions.get? symbol = some position) :
    filled.positionAmt symbol =
        defaultContext.rounded
          (position.positionAmt + side.roundedSigned quantity) ∧
      (filled.positionAmt symbol ≠ 0 →
        position.FillsInRange side quantity price) := by
  cases move with
  | ignored _ _ flat =>
      cases held.symm.trans flat
  | opened _ _ flat =>
      cases held.symm.trans flat
  | closed _ stored _ _ _ _ signed found closes _ _ _ =>
      cases held.symm.trans found
      obtain ⟨_, rfl⟩ := OrderSide.signedWith_eq_ok_iff.mp signed
      obtain ⟨_, vanishes⟩ := finalize_eq_ok_iff.mp closes
      have empty :
          MockBinanceAdapter.positionAmt
            { adapter with
              positions := adapter.positions.erase symbol } symbol = 0 := by
        simp [positionAmt, OrderedDict.get?_erase]
      exact ⟨empty.trans vanishes.symm, fun moved => absurd empty moved⟩
  | kept _ stored kept _ _ signed found added keeps averaged =>
      cases held.symm.trans found
      obtain ⟨signInRange, rfl⟩ := OrderSide.signedWith_eq_ok_iff.mp signed
      obtain ⟨summed, rfl⟩ := finalize_eq_ok_iff.mp added
      have left :
          MockBinanceAdapter.positionAmt
            { adapter with
              positions := adapter.positions.modify symbol fun _ => kept }
              symbol = kept.positionAmt := by
        simp [positionAmt, OrderedDict.get?_modify, held]
      exact ⟨left.trans (filledWith_symbol averaged).2, fun _ =>
        ⟨signInRange, summed,
          (filledWith_computes_iff keeps).mp ⟨kept, averaged⟩⟩⟩

/-- Without a position a reduce-only fill does nothing. -/
theorem FillMove.ignored_of_flat
    (move :
      FillMove contextArithmetic adapter symbol side quantity price true
        filled)
    (flat : adapter.positions.get? symbol = none) :
    filled = adapter := by
  cases move with
  | ignored _ _ _ => rfl
  | closed _ _ _ _ _ _ _ held _ _ _ _ => cases held.symm.trans flat
  | kept _ _ _ _ _ _ held _ _ _ => cases held.symm.trans flat

/-- A fill that keeps a position does not raise if nothing overflows. -/
theorem exists_fillMove
    (held : adapter.positions.get? symbol = some position)
    (inRange : position.FillsInRange side quantity price)
    (keeps :
      defaultContext.rounded
        (position.positionAmt + side.roundedSigned quantity) ≠ 0)
    (reduceOnly : Bool) :
    ∃ filled,
      FillMove contextArithmetic adapter symbol side quantity price reduceOnly
        filled := by
  obtain ⟨kept, averaged⟩ :=
    (filledWith_computes_iff keeps).mpr inRange.averaged
  exact ⟨_, .kept reduceOnly position kept _ _
    (OrderSide.signedWith_eq_ok_iff.mpr ⟨inRange.signed, rfl⟩) held
    (finalize_eq_ok_iff.mpr ⟨inRange.summed, rfl⟩) keeps averaged⟩

end MockBinanceAdapter

/--
A reduce-only market order is honoured exactly if no position is stored, or its
signed quantity reduces the amount, or some step of the fill overflows, so that
nothing is filled.
-/
theorem reduceOnlyHonoured_iff
    (adapter : MockBinanceAdapter)
    (request : OrderRequest)
    (now : Int)
    (market : request.isMarket = true)
    (reduceOnly : request.reduceOnly = true)
    (fresh : adapter.clientToOrder.get? request.clientOrderId = none) :
    ReduceOnlyHonoured
        (adapter.positionAmt request.storedSymbol)
        ((adapter.placeOrderWith contextArithmetic request now).1.positionAmt
          request.storedSymbol) ↔
      ∀ position,
        adapter.positions.get? request.storedSymbol = some position →
          Reduces position.positionAmt
              (request.side.roundedSigned request.quantity) ∨
            ¬ position.FillsInRange request.side request.quantity
              (adapter.fillPrice request) := by
  have fills :
      adapter.filledOrder? (.placeOrder request now) = some request := by
    simp [MockBinanceAdapter.filledOrder?, fresh, market]
  have placed :
      (adapter.placeOrderWith contextArithmetic request now).1 =
        (adapter.stepWith contextArithmetic (.placeOrder request now)).1 :=
    rfl
  rw [placed]
  constructor
  · intro honoured position held
    by_contra neither
    rw [not_or, not_not] at neither
    obtain ⟨grows, inRange⟩ := neither
    have keeps :
        defaultContext.rounded (position.positionAmt +
          request.side.roundedSigned request.quantity) ≠ 0 :=
      fun empty => grows (.vanishes empty)
    have heldBehind :
        (adapter.record (adapter.orderOf request now)).positions.get?
          request.storedSymbol = some position :=
      held
    obtain ⟨filled, move⟩ :=
      MockBinanceAdapter.exists_fillMove heldBehind inRange keeps
        request.reduceOnly
    have computed := MockBinanceAdapter.applyFillWith_eq_ok_iff.mpr move
    obtain ⟨amount, _⟩ :=
      MockBinanceAdapter.positionAmt_of_fillMove move heldBehind
    rw [MockBinanceAdapter.stepWith_filled fills computed, amount,
      MockBinanceAdapter.positionAmt, held] at honoured
    exact grows (reduceOnlyHonoured_rounded_iff.mp honoured)
  · intro allowed
    obtain ⟨time, isOrder, stored | move⟩ :=
      @MockBinanceAdapter.stepWith_fills contextArithmetic adapter _ request
        fills
    · cases isOrder
      rw [stored]
      exact .refl _
    · cases isOrder
      have before :
          (adapter.record (adapter.orderOf request now)).positionAmt
              request.storedSymbol =
            adapter.positionAmt request.storedSymbol :=
        rfl
      cases held : adapter.positions.get? request.storedSymbol with
      | none =>
          rw [reduceOnly] at move
          rw [← before, ← move.ignored_of_flat held]
          exact .refl _
      | some position =>
          obtain ⟨amount, computes⟩ :=
            MockBinanceAdapter.positionAmt_of_fillMove move held
          rw [MockBinanceAdapter.positionAmt, held]
          rcases allowed position held with reduces | overflows
          · rw [amount]
            exact reduceOnlyHonoured_rounded_iff.mpr reduces
          · have closed :=
              not_not.mp fun moved => overflows (computes moved)
            rw [closed]
            exact .closed _

/-- Closing half of a long position is honoured. -/
theorem reduceOnlyHonoured_halfClosed :
    let adapter :=
      (decimalMachine contextArithmetic).final (.create 100)
        [.placeOrder (btcOrder .buy 2 "entry" false) 0]
    ReduceOnlyHonoured
      (adapter.positionAmt (btcOrder .sell 1 "exit" true).storedSymbol)
      ((adapter.placeOrderWith contextArithmetic
        (btcOrder .sell 1 "exit" true) 1).1.positionAmt
          (btcOrder .sell 1 "exit" true).storedSymbol) := by
  intro adapter
  refine (reduceOnlyHonoured_iff adapter (btcOrder .sell 1 "exit" true) 1
    (by decide +kernel) rfl (by decide +kernel)).mpr ?_
  intro position held
  have amounts :
      (adapter.positions.get?
          (btcOrder .sell 1 "exit" true).storedSymbol).map
            MockPosition.positionAmt = some 2 := by
    decide +kernel
  rw [held, Option.map_some, Option.some.injEq] at amounts
  rw [amounts]
  exact Or.inl (.shrinks (by decide +kernel) (by decide +kernel)
    (by decide +kernel))

/-- A reduce-only sell of twice a long position opens a short one. -/
theorem reduceOnly_order_reverses :
    ¬ ∀ adapter, DecimalReachable adapter →
      ∀ (request : OrderRequest) (now : Int),
        request.isMarket = true →
        request.reduceOnly = true →
        0 < request.quantity →
        adapter.clientToOrder.get? request.clientOrderId = none →
          ReduceOnlyHonoured
            (adapter.positionAmt request.storedSymbol)
            ((adapter.placeOrderWith contextArithmetic request
              now).1.positionAmt request.storedSymbol) := by
  intro honoured
  let entered : List MockOp := [.placeOrder (btcOrder .buy 1 "entry" false) 0]
  let adapter :=
    (decimalMachine contextArithmetic).final (.create 100) entered
  have stays :=
    honoured adapter (.of_run 100 entered) (btcOrder .sell 2 "exit" true) 1
      (by decide +kernel) rfl (by decide +kernel) (by decide +kernel)
  have longBefore :
      adapter.positionAmt (btcOrder .sell 2 "exit" true).storedSymbol =
        1 := by
    decide +kernel
  have reversed :
      (adapter.placeOrderWith contextArithmetic
        (btcOrder .sell 2 "exit" true) 1).1.positionAmt
          (btcOrder .sell 2 "exit" true).storedSymbol = -1 := by
    decide +kernel
  have notShort := stays.longStays
  rw [reversed, longBefore] at notShort
  exact absurd (notShort (by decide)) (by decide)

end SafeSignalTrader
