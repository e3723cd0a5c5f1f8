import Mathlib.Order.Bounds.Basic
import Mathlib.Order.MinMax
import Mathlib.Data.List.Basic

/-!
# Folding to an extreme value

Keeping the larger of a value and each of a list of offers, one after the
other, ends with the greatest of them all.  So the end never depends on the
order or the repetition of the offers.  The order dual gives the same for the
smaller value.
-/

namespace ExtremalFold

variable {Value : Type} [LinearOrder Value]

/-- Keep the larger of a start value and each offer in turn. -/
def ratchet (start : Value) (offers : List Value) : Value :=
  offers.foldl max start

@[simp] theorem ratchet_nil (start : Value) :
    ratchet start [] = start :=
  rfl

@[simp] theorem ratchet_cons (start offer : Value) (rest : List Value) :
    ratchet start (offer :: rest) = ratchet (max start offer) rest :=
  rfl

/-- The fold ends with the greatest of the start value and the offers. -/
theorem isGreatest_ratchet (start : Value) (offers : List Value) :
    IsGreatest {value | value = start ∨ value ∈ offers}
      (ratchet start offers) := by
  induction offers generalizing start with
  | nil =>
      constructor
      · exact Or.inl rfl
      · intro value member
        rcases member with isStart | impossible
        · exact le_of_eq isStart
        · cases impossible
  | cons offer rest inductionHypothesis =>
      obtain ⟨reached, bounds⟩ := inductionHypothesis (max start offer)
      constructor
      · rcases reached with isMax | inRest
        · rcases max_choice start offer with isStart | isOffer
          · exact Or.inl (isMax.trans isStart)
          · right
            rw [ratchet_cons, isMax, isOffer]
            exact List.mem_cons_self
        · exact Or.inr (List.mem_cons_of_mem offer inRest)
      · intro value member
        have maxBounded : max start offer ≤ ratchet (max start offer) rest :=
          bounds (Or.inl rfl)
        rcases member with isStart | isOffered
        · rw [isStart]
          exact le_trans (le_max_left start offer) maxBounded
        · rcases List.mem_cons.mp isOffered with isOffer | inRest
          · rw [isOffer]
            exact le_trans (le_max_right start offer) maxBounded
          · exact bounds (Or.inr inRest)

/-- The fold never falls below its start value. -/
theorem le_ratchet (start : Value) (offers : List Value) :
    start ≤ ratchet start offers :=
  (isGreatest_ratchet start offers).2 (Or.inl rfl)

/-- The fold depends on the set of offers only. -/
theorem ratchet_congr
    {first second : List Value}
    (start : Value)
    (sameOffers : ∀ offer, offer ∈ first ↔ offer ∈ second) :
    ratchet start first = ratchet start second := by
  have firstGreatest := isGreatest_ratchet start first
  simp only [sameOffers] at firstGreatest
  exact firstGreatest.unique (isGreatest_ratchet start second)

end ExtremalFold
