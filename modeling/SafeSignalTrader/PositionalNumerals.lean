import Mathlib.Algebra.Group.Nat.Defs
import Mathlib.Order.Nat

/-!
# Positional numerals

Numerals of a fixed width and of their natural width in a base up to sixteen,
and what a prefix of such a numeral says about its number.
-/

namespace PositionalNumerals

/-- The lowest digits of a number, padded with zeros to a width. -/
def fixedDigits (base : Nat) : (width number : Nat) → List Char
  | 0, _ => []
  | width + 1, number =>
      fixedDigits base width (number / base) ++
        [Nat.digitChar (number % base)]

/-- The number that the first digits of a numeral denote. -/
def leadingNumber (base count number : Nat) : Nat :=
  number / base ^ ((Nat.toDigits base number).length - count)

variable {base : Nat}

@[simp] theorem length_fixedDigits (width number : Nat) :
    (fixedDigits base width number).length = width := by
  induction width generalizing number with
  | zero => rfl
  | succ width inductionHypothesis =>
      simp [fixedDigits, inductionHypothesis]

/-- The first digits of a fixed numeral are the numeral of the quotient. -/
theorem take_fixedDigits (width rest number : Nat) :
    (fixedDigits base (width + rest) number).take width =
      fixedDigits base width (number / base ^ rest) := by
  induction rest generalizing number with
  | zero =>
      rw [Nat.pow_zero, Nat.div_one, Nat.add_zero]
      exact List.take_of_length_le (le_of_eq (length_fixedDigits _ _))
  | succ rest inductionHypothesis =>
      have longEnough :
          width ≤ (fixedDigits base (width + rest) (number / base)).length := by
        simp
      rw [← Nat.add_assoc, fixedDigits,
        List.take_append_of_le_length longEnough, inductionHypothesis,
        Nat.div_div_eq_div_mul, ← Nat.pow_succ']

/-- Digits below sixteen have different characters. -/
theorem digitChar_injective
    {first second : Nat}
    (firstSmall : first < 16)
    (secondSmall : second < 16)
    (same : Nat.digitChar first = Nat.digitChar second) :
    first = second := by
  have checked :
      ∀ first < 16, ∀ second < 16,
        Nat.digitChar first = Nat.digitChar second → first = second := by
    decide
  exact checked first firstSmall second secondSmall same

/-- A last digit determines the remainder. -/
theorem mod_eq_of_digitChar_eq
    (atLeastTwo : 1 < base)
    (atMostSixteen : base ≤ 16)
    {first second : Nat}
    (same :
      Nat.digitChar (first % base) = Nat.digitChar (second % base)) :
    first % base = second % base := by
  have positive : 0 < base := Nat.zero_lt_of_lt atLeastTwo
  exact digitChar_injective
    (lt_of_lt_of_le (Nat.mod_lt first positive) atMostSixteen)
    (lt_of_lt_of_le (Nat.mod_lt second positive) atMostSixteen) same

/-- A fixed numeral determines every number that fits its width. -/
theorem fixedDigits_injective
    (atLeastTwo : 1 < base)
    (atMostSixteen : base ≤ 16)
    {width first second : Nat}
    (firstFits : first < base ^ width)
    (secondFits : second < base ^ width)
    (same : fixedDigits base width first = fixedDigits base width second) :
    first = second := by
  induction width generalizing first second with
  | zero =>
      rw [Nat.pow_zero, Nat.lt_one_iff] at firstFits secondFits
      rw [firstFits, secondFits]
  | succ width inductionHypothesis =>
      have positive : 0 < base := Nat.zero_lt_of_lt atLeastTwo
      obtain ⟨sameInit, sameLast⟩ :=
        List.append_inj same (by simp)
      have sameRemainder :=
        mod_eq_of_digitChar_eq atLeastTwo atMostSixteen
          (List.cons.inj sameLast).1
      have sameQuotient : first / base = second / base := by
        apply inductionHypothesis _ _ sameInit
        · exact (Nat.div_lt_iff_lt_mul positive).mpr firstFits
        · exact (Nat.div_lt_iff_lt_mul positive).mpr secondFits
      rw [← Nat.div_add_mod first base, ← Nat.div_add_mod second base,
        sameQuotient, sameRemainder]

/-- Dropping last digits divides by a power of the base. -/
theorem toDigits_div_pow
    (atLeastTwo : 1 < base)
    {rest number : Nat}
    (remains : rest < (Nat.toDigits base number).length) :
    Nat.toDigits base (number / base ^ rest) =
      (Nat.toDigits base number).take
        ((Nat.toDigits base number).length - rest) := by
  induction rest generalizing number with
  | zero =>
      rw [Nat.pow_zero, Nat.div_one, Nat.sub_zero, List.take_length]
  | succ rest inductionHypothesis =>
      have notSmall : base ≤ number := by
        by_contra small
        have short :=
          (Nat.length_toDigits_le_iff atLeastTwo (k := 1) Nat.one_pos).mpr
            (by simpa using not_le.mp small)
        omega
      have unfolded := Nat.toDigits_of_base_le atLeastTwo notSmall
      rw [unfolded, List.length_append, List.length_singleton] at remains
      rw [unfolded, List.length_append, List.length_singleton,
        Nat.add_sub_add_right,
        List.take_append_of_le_length (Nat.sub_le _ _),
        ← inductionHypothesis (Nat.lt_of_succ_lt_succ remains),
        Nat.div_div_eq_div_mul, ← Nat.pow_succ']

/-- The first digits of a numeral are the numeral of a leading number. -/
theorem take_toDigits
    (atLeastTwo : 1 < base)
    {count : Nat}
    (positive : 0 < count)
    (number : Nat) :
    (Nat.toDigits base number).take count =
      Nat.toDigits base (leadingNumber base count number) := by
  have nonempty : 0 < (Nat.toDigits base number).length :=
    Nat.length_toDigits_pos
  unfold leadingNumber
  rw [toDigits_div_pow atLeastTwo (Nat.sub_lt nonempty positive)]
  rcases Nat.le_total (Nat.toDigits base number).length count with
    short | long
  · rw [Nat.sub_eq_zero_of_le short, Nat.sub_zero, List.take_length,
      List.take_of_length_le short]
  · rw [Nat.sub_sub_self long]

/-- Two numerals have one prefix exactly if they have one leading number. -/
theorem take_toDigits_eq_iff
    (atLeastTwo : 1 < base)
    (atMostTen : base ≤ 10)
    {count : Nat}
    (positive : 0 < count)
    {first second : Nat} :
    (Nat.toDigits base first).take count =
        (Nat.toDigits base second).take count ↔
      leadingNumber base count first = leadingNumber base count second := by
  have injective : Function.Injective (Nat.toDigits base) := by
    apply Function.LeftInverse.injective
      (g := fun digits => Nat.ofDigitChars base digits 0)
    exact fun _ => Nat.ofDigitChars_toDigits atLeastTwo atMostTen
  rw [take_toDigits atLeastTwo positive, take_toDigits atLeastTwo positive]
  exact injective.eq_iff

end PositionalNumerals
