import Mathlib.Algebra.BigOperators.Group.List.Lemmas
import Mathlib.Algebra.Order.Field.Basic
import Mathlib.Algebra.Order.BigOperators.Group.List
import Mathlib.Tactic.FieldSimp
import Mathlib.Tactic.Ring

/-!
# Average cost basis

Lots bought one after the other, their average price weighted by quantity, and
what selling all of them at one price gains.  The average can be carried along
lot by lot without remembering the earlier prices, and neither the order nor
the single prices matter once it is known.
-/

namespace CostBasis

/-- A quantity acquired at a price. -/
structure Lot (Number : Type) where
  quantity : Number
  price : Number
  deriving Repr, DecidableEq

variable {Number : Type}

section Sums

variable [Field Number]

/-- The quantity of all lots together. -/
def quantity (lots : List (Lot Number)) : Number :=
  (lots.map Lot.quantity).sum

/-- What all lots together have cost. -/
def cost (lots : List (Lot Number)) : Number :=
  (lots.map fun lot => lot.quantity * lot.price).sum

/-- The price per unit, averaged over the lots. -/
def average (lots : List (Lot Number)) : Number :=
  cost lots / quantity lots

/-- What selling every lot at one price gains. -/
def gain (price : Number) (lots : List (Lot Number)) : Number :=
  (lots.map fun lot => (price - lot.price) * lot.quantity).sum

theorem quantity_append_singleton
    (lots : List (Lot Number))
    (lot : Lot Number) :
    quantity (lots ++ [lot]) = quantity lots + lot.quantity := by
  simp [quantity]

theorem cost_append_singleton
    (lots : List (Lot Number))
    (lot : Lot Number) :
    cost (lots ++ [lot]) = cost lots + lot.quantity * lot.price := by
  simp [cost]

/-- The order of the lots does not change their quantity. -/
theorem quantity_perm
    {first second : List (Lot Number)}
    (permuted : first.Perm second) :
    quantity first = quantity second :=
  (permuted.map Lot.quantity).sum_eq

/-- The order of the lots does not change their average price. -/
theorem average_perm
    {first second : List (Lot Number)}
    (permuted : first.Perm second) :
    average first = average second := by
  have sameCost : cost first = cost second :=
    (permuted.map fun lot : Lot Number => lot.quantity * lot.price).sum_eq
  rw [average, average, sameCost, quantity_perm permuted]

/-- The gain is what the whole quantity fetches less what it has cost. -/
theorem gain_eq (price : Number) (lots : List (Lot Number)) :
    gain price lots = price * quantity lots - cost lots := by
  induction lots with
  | nil =>
      simp [gain, quantity, cost]
  | cons lot rest inductionHypothesis =>
      simp only [gain, quantity, cost, List.map_cons, List.sum_cons]
        at inductionHypothesis ⊢
      rw [inductionHypothesis]
      ring

end Sums

section Averages

variable [Field Number]

/-- The average price of a single lot is its own. -/
theorem average_singleton
    {lot : Lot Number}
    (nonzero : lot.quantity ≠ 0) :
    average [lot] = lot.price := by
  simp only [average, cost, quantity, List.map_cons, List.map_nil,
    List.sum_cons, List.sum_nil, add_zero]
  exact mul_div_cancel_left₀ lot.price nonzero

/-- The average price times the quantity is the cost. -/
theorem quantity_mul_average
    {lots : List (Lot Number)}
    (nonzero : quantity lots ≠ 0) :
    quantity lots * average lots = cost lots :=
  mul_div_cancel₀ (cost lots) nonzero

/-- The next average needs only the last one and the quantity it stands for. -/
theorem average_append_singleton
    {lots : List (Lot Number)}
    (nonzero : quantity lots ≠ 0)
    (lot : Lot Number) :
    average (lots ++ [lot]) =
      (quantity lots * average lots + lot.quantity * lot.price) /
        (quantity lots + lot.quantity) := by
  rw [quantity_mul_average nonzero, average, cost_append_singleton,
    quantity_append_singleton]

/-- Selling the whole quantity against the average gains what the lots gain. -/
theorem gain_eq_average
    {lots : List (Lot Number)}
    (nonzero : quantity lots ≠ 0)
    (price : Number) :
    gain price lots = (price - average lots) * quantity lots := by
  rw [gain_eq, ← quantity_mul_average nonzero]
  ring

end Averages

/-- Lots of positive quantities have a positive quantity together. -/
theorem quantity_pos
    [Field Number] [LinearOrder Number] [IsStrictOrderedRing Number]
    {lots : List (Lot Number)}
    (nonempty : lots ≠ [])
    (positive : ∀ lot ∈ lots, 0 < lot.quantity) :
    0 < quantity lots := by
  refine List.sum_pos _ ?_ (by simpa using nonempty)
  intro amount member
  obtain ⟨lot, inLots, rfl⟩ := List.mem_map.mp member
  exact positive lot inLots

end CostBasis
