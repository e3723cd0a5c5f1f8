import Mathlib.Data.List.TakeWhile

/-!
# Removing pieces of a text

All occurrences of a piece are removed from left to right, without looking at
the places where two removals meet, and characters of a kind are stripped off
both ends.
-/

namespace TextRemoval

variable {Symbol : Type}

section Pieces

variable [DecidableEq Symbol]

/--
The text after some characters, without the occurrences of a piece in it.
-/
def removeFrom (piece : List Symbol) : (skipped : Nat) → List Symbol → List Symbol
  | _, [] => []
  | skipped + 1, _ :: rest => removeFrom piece skipped rest
  | 0, char :: rest =>
      if piece.isPrefixOf (char :: rest) then
        removeFrom piece (piece.length - 1) rest
      else
        char :: removeFrom piece 0 rest

/-- A text without the occurrences of a piece. -/
def removeAll (piece text : List Symbol) : List Symbol :=
  removeFrom piece 0 text

/-- Without the first character of a piece there is nothing to remove. -/
theorem removeAll_of_notMem
    {first : Symbol}
    {piece text : List Symbol}
    (absent : first ∉ text) :
    removeAll (first :: piece) text = text := by
  unfold removeAll
  induction text with
  | nil => rfl
  | cons char rest inductionHypothesis =>
      obtain ⟨differs, restAbsent⟩ := not_or.mp (mt List.mem_cons.mpr absent)
      simp [removeFrom, List.isPrefixOf, differs,
        inductionHypothesis restAbsent]

/-- A piece of one character is removed by leaving that character out. -/
theorem removeAll_singleton (removed : Symbol) (text : List Symbol) :
    removeAll [removed] text = text.filter fun char => char ≠ removed := by
  unfold removeAll
  induction text with
  | nil => rfl
  | cons char rest inductionHypothesis =>
      by_cases same : removed = char
      · subst same
        simp [removeFrom, List.isPrefixOf, inductionHypothesis]
      · have differs : char ≠ removed := fun equal => same equal.symm
        simp [removeFrom, List.isPrefixOf, same, differs,
          inductionHypothesis]

end Pieces

/-- A text without the characters of a kind at its two ends. -/
def stripEnds (strips : Symbol → Bool) (text : List Symbol) : List Symbol :=
  ((text.dropWhile strips).reverse.dropWhile strips).reverse

/-- Nothing is stripped off a text without such characters. -/
theorem stripEnds_of_none
    {strips : Symbol → Bool}
    {text : List Symbol}
    (free : ∀ char ∈ text, strips char = false) :
    stripEnds strips text = text := by
  have untouched :
      ∀ line : List Symbol, (∀ char ∈ line, strips char = false) →
        line.dropWhile strips = line := by
    intro line lineFree
    cases line with
    | nil => rfl
    | cons char rest =>
        simp [List.dropWhile, lineFree char List.mem_cons_self]
  unfold stripEnds
  rw [untouched text free, untouched, List.reverse_reverse]
  intro char member
  exact free char (List.mem_reverse.mp member)

end TextRemoval
