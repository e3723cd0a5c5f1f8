import SafeSignalTrader.LineValues
import SafeSignalTrader.ParsedSignals

/-!
# The lines a signal is written on

The patterns of `parsers/generic_structured.py` read words, and a gap between
two words may be the end of a line.  So a value may be put together from the
words of several lines; on which texts this happens is stated in terms of the
words of their lines.
-/

namespace SafeSignalTrader

open BacktrackingRegex PythonText Pattern

namespace GenericStructuredParser

section Letters

/-- Only a letter has a letter other than i and k as its lower case. -/
theorem isAlpha_of_lower
    {char letter : Char}
    (isLower : lower char = letter)
    (plain : letter ≠ 'i' ∧ letter ≠ 'k')
    (alpha : letter.isAlpha = true) :
    char.isAlpha = true := by
  unfold lower at isLower
  split at isLower
  · next capital =>
      unfold Char.isAlpha Char.isUpper
      rw [Bool.or_eq_true, decide_eq_true_eq]
      exact Or.inl capital
  · split at isLower
    · exact absurd isLower.symm plain.1
    · split at isLower
      · exact absurd isLower.symm plain.2
      · rw [isLower]
        exact alpha

theorem foldsTo_L
    {char : Char}
    (folds : foldsTo 'L' char = true) :
    lower char = 'l' ∧ char.isAlpha = true := by
  have isLower : lower char = 'l' := by
    simpa [foldsTo, show lower 'L' = 'l' by decide] using folds
  exact ⟨isLower, isAlpha_of_lower isLower (by decide) (by decide)⟩

/-- No character stands for the first letters of both `LONG` and `SELL`. -/
theorem foldsTo_apart (char : Char) :
    foldsTo 'L' char = false ∨ foldsTo 'S' char = false := by
  cases folds : foldsTo 'L' char with
  | false => exact Or.inl rfl
  | true =>
      obtain ⟨isLower, alpha⟩ := foldsTo_L folds
      have bounds := toNat_of_isAlpha alpha
      refine Or.inr ?_
      have notLong : char.toNat ≠ 383 := by omega
      simp [foldsTo, isLower, show lower 'S' = 's' by decide, notLong]

/-- A numeral does not start with the first letter of `TP`. -/
theorem foldsTo_T_of_isNumeralChar
    {char : Char}
    (numeral : isNumeralChar char = true) :
    foldsTo 'T' char = false := by
  by_contra folds
  have isLower : lower char = 't' := by
    simpa [foldsTo, show lower 'T' = 't' by decide] using folds
  have alpha := isAlpha_of_lower isLower (by decide) (by decide)
  rw [isNumeralChar_of_isAlpha alpha] at numeral
  cases numeral

end Letters

section Words

/-- The test of a keyword. -/
def keywordTest (letters : String) : WordTest CaptureName Char :=
  lettersTest (letterTests letters)

/-- The test of a side word. -/
def sideTest : WordTest CaptureName Char :=
  groupTest .side
    (eitherTest (keywordTest "LONG")
      (eitherTest (keywordTest "SHORT")
        (eitherTest (keywordTest "BUY") (keywordTest "SELL"))))

/-- The test of a symbol. -/
def symbolWordTest : WordTest CaptureName Char :=
  groupTest .symbol (kindTest isAlnumIgnoreCase)

/-- The test of a price. -/
def priceTest : WordTest CaptureName Char :=
  groupTest .price (kindTest isNumeralChar)

/-- The test of a take-profit keyword with its index. -/
def levelTest : WordTest CaptureName Char :=
  prefixTest (letterTests "TP")
    (groupTest .idx (symbolTest fun char => '1' ≤ char && char ≤ '5'))

/-- The test of a size, with or without a percent sign. -/
def sizeTest : WordTest CaptureName Char :=
  leadingTest .pct isNumeralChar (optionalTest (symbolTest (· == '%')))

/-- The test of a leverage keyword. -/
def leverageKeyTest : WordTest CaptureName Char :=
  prefixTest (letterTests "LEV") (optionalTest (keywordTest "ERAGE"))

/-- The test of a leverage. -/
def leverageTest : WordTest CaptureName Char :=
  groupTest .lev (kindTest isDigit)

/-- The words of a signal line. -/
def signalShape : List (List (WordTest CaptureName Char)) :=
  [[keywordTest "SIGNAL", sideTest, symbolWordTest]]

/-- The words of a price line. -/
def priceShape (keyword : String) : List (List (WordTest CaptureName Char)) :=
  [[keywordTest keyword, priceTest]]

/-- The words of an entry line. -/
def entryShape : List (List (WordTest CaptureName Char)) :=
  priceShape "ENTRY"

/-- The words of a stop-loss line. -/
def slShape : List (List (WordTest CaptureName Char)) :=
  priceShape "SL"

/-- The words of a take-profit line, with a size if there is one. -/
def tpShape : List (List (WordTest CaptureName Char)) :=
  [[levelTest, priceTest, sizeTest], [levelTest, priceTest]]

/-- The words of a leverage line. -/
def levShape : List (List (WordTest CaptureName Char)) :=
  [[leverageKeyTest, leverageTest]]

variable {letters : String}

/-- No letter of a word stands for white space. -/
theorem letterTests_outsideGaps
    (alpha : letters.toList.all Char.isAlpha = true) :
    ∀ test ∈ letterTests letters, ∀ char, test char = true →
      lineAlphabet.isGap char = false := by
  intro test member char passed
  obtain ⟨letter, isLetter, rfl⟩ := List.mem_map.mp member
  cases space : isSpace char with
  | false => exact space
  | true =>
      have refused :=
        foldsTo_of_isSpace (List.all_eq_true.mp alpha letter isLetter) space
      rw [refused] at passed
      cases passed

theorem readsWord_word
    (alpha : letters.toList.all Char.isAlpha = true) :
    ReadsWord lineAlphabet (word letters) (keywordTest letters) := by
  rw [word_eq]
  exact readsWord_letters (letterTests_outsideGaps alpha)

/-- A word passes no letter tests of another length. -/
theorem lettersTest_of_length
    {tests : List (Char → Bool)}
    {word : List Char}
    (differs : word.length ≠ tests.length) :
    (lettersTest tests : WordTest CaptureName Char) word = none :=
  if_neg fun both => differs both.2

/-- Side words are told apart by their lengths and first letters. -/
theorem keywordTest_apart
    {first second : String}
    (differs : first.toList.length ≠ second.toList.length)
    (word : List Char) :
    keywordTest first word = none ∨ keywordTest second word = none := by
  by_cases length : word.length = first.toList.length
  · refine Or.inr (lettersTest_of_length ?_)
    rw [letterTests, List.length_map, length]
    exact differs
  · refine Or.inl (lettersTest_of_length ?_)
    rw [letterTests, List.length_map]
    exact length

theorem keywordTest_long_sell (word : List Char) :
    keywordTest "LONG" word = none ∨ keywordTest "SELL" word = none := by
  cases word with
  | nil => exact Or.inl rfl
  | cons char rest =>
      rcases foldsTo_apart char with refused | refused
      · refine Or.inl (if_neg ?_)
        rintro ⟨passed, _⟩
        have first : foldsTo 'L' char = true :=
          (Bool.and_eq_true_iff.mp passed).1
        rw [refused] at first
        cases first
      · refine Or.inr (if_neg ?_)
        rintro ⟨passed, _⟩
        have first : foldsTo 'S' char = true :=
          (Bool.and_eq_true_iff.mp passed).1
        rw [refused] at first
        cases first

/-- A test is apart from two alternatives if it is apart from each. -/
theorem eitherTest_apart
    {test first second : WordTest CaptureName Char}
    {word : List Char}
    (fromFirst : test word = none ∨ first word = none)
    (fromSecond : test word = none ∨ second word = none) :
    test word = none ∨ eitherTest first second word = none := by
  rcases fromFirst with refused | refusedFirst
  · exact Or.inl refused
  · rcases fromSecond with refused | refusedSecond
    · exact Or.inl refused
    · refine Or.inr ?_
      rw [eitherTest, refusedFirst, refusedSecond]
      rfl

theorem readsWord_side :
    ReadsWord lineAlphabet
      (.group .side
        (.alt (word "LONG")
          (.alt (word "SHORT") (.alt (word "BUY") (word "SELL")))))
      sideTest := by
  have buyOrSell :=
    (readsWord_word (by decide : "BUY".toList.all Char.isAlpha = true)).alt
      (readsWord_word (by decide : "SELL".toList.all Char.isAlpha = true))
      (keywordTest_apart (by decide))
  have notLong :=
    (readsWord_word
      (by decide : "SHORT".toList.all Char.isAlpha = true)).alt buyOrSell
      (fun word =>
        eitherTest_apart (keywordTest_apart (by decide) word)
          (keywordTest_apart (by decide) word))
  have all :=
    (readsWord_word
      (by decide : "LONG".toList.all Char.isAlpha = true)).alt notLong
      (fun word =>
        eitherTest_apart (keywordTest_apart (by decide) word)
          (eitherTest_apart (keywordTest_apart (by decide) word)
            (keywordTest_long_sell word)))
  exact all.group CaptureName.side

theorem alnum_outsideGaps
    (char : Char)
    (alnum : isAlnumIgnoreCase char = true) :
    lineAlphabet.isGap char = false := by
  cases space : isSpace char with
  | false => exact space
  | true =>
      rw [isAlnumIgnoreCase_of_isSpace space] at alnum
      cases alnum

theorem numeral_outsideGaps
    (char : Char)
    (numeral : isNumeralChar char = true) :
    lineAlphabet.isGap char = false :=
  isSpace_of_isNumeralChar numeral

theorem readsWord_symbol :
    ReadsWord lineAlphabet (.group .symbol (.oneOrMore isAlnumIgnoreCase))
      symbolWordTest :=
  (readsWord_oneOrMore alnum_outsideGaps).group CaptureName.symbol

theorem readsWord_price :
    ReadsWord lineAlphabet (.group .price numeral) priceTest :=
  (readsWord_oneOrMore numeral_outsideGaps).group CaptureName.price

theorem readsWord_leverage :
    ReadsWord lineAlphabet (.group .lev (.oneOrMore isDigit))
      leverageTest :=
  (readsWord_oneOrMore fun _ digit => isSpace_of_isDigit digit).group
    CaptureName.lev

/-- An index is a digit, so it is no white space. -/
theorem readsWord_level :
    ReadsWord lineAlphabet
      (.seq (word "TP")
        (.group .idx (.one fun char => '1' ≤ char && char ≤ '5')))
      levelTest := by
  have readsIndex :
      ReadsWord lineAlphabet (.one fun char => '1' ≤ char && char ≤ '5')
        (symbolTest fun char => '1' ≤ char && char ≤ '5' :
          WordTest CaptureName Char) := by
    apply readsWord_one
    intro char inRange
    simp only [Bool.and_eq_true, decide_eq_true_eq] at inRange
    apply isSpace_of_isAlphanum
    have low : (49 : Nat) ≤ char.toNat := inRange.1
    have high : char.toNat ≤ 53 := inRange.2
    simp only [Char.isAlphanum, Char.isDigit, Bool.or_eq_true,
      Bool.and_eq_true, decide_eq_true_eq]
    refine Or.inr ⟨?_, ?_⟩
    · exact Nat.le_trans (by decide) low
    · exact Nat.le_trans high (by decide)
  rw [word_eq]
  exact (readsIndex.group CaptureName.idx).prefixed
    (letterTests_outsideGaps (by decide))

theorem readsWord_size :
    ReadsWord lineAlphabet
      (.seq (.group .pct numeral) (.opt (.one (· == '%'))))
      sizeTest := by
  have readsSign :
      ReadsWord lineAlphabet (.one (· == '%'))
        (symbolTest (· == '%') : WordTest CaptureName Char) := by
    apply readsWord_one
    intro char isSign
    rw [beq_iff_eq] at isSign
    subst isSign
    decide
  apply (readsSign.opt rfl).leading numeral_outsideGaps
  intro char rest isNumeral
  have notSign : (char == '%') = false := by
    rw [beq_eq_false_iff_ne]
    intro isSign
    subst isSign
    revert isNumeral
    decide
  cases rest with
  | nil => simp [optionalTest, symbolTest, notSign]
  | cons next others => rfl

theorem readsWord_leverageKey :
    ReadsWord lineAlphabet (.seq (word "LEV") (.opt (word "ERAGE")))
      leverageKeyTest := by
  have readsEnding :=
    (readsWord_word
      (by decide : "ERAGE".toList.all Char.isAlpha = true)).opt rfl
  rw [word_eq]
  exact readsEnding.prefixed (letterTests_outsideGaps (by decide))

end Words

section Patterns

theorem signalRe_readsRows :
    ReadsRows lineAlphabet signalRe signalShape :=
  readsRows_of_readsLines
    (((readsOnwards_lineEnd.cons readsWord_symbol rfl).cons readsWord_side
      rfl).readsLines (readsWord_word (by decide)) rfl)

theorem priceLine_readsRows
    {keyword : String}
    (alpha : keyword.toList.all Char.isAlpha = true)
    (nonempty : keywordTest keyword [] = none) :
    ReadsRows lineAlphabet (priceLine keyword) (priceShape keyword) :=
  readsRows_of_readsLines
    ((readsOnwards_lineEnd.cons readsWord_price rfl).readsLines
      (readsWord_word alpha) nonempty)

theorem entryRe_readsRows : ReadsRows lineAlphabet entryRe entryShape :=
  priceLine_readsRows (by decide) rfl

theorem slRe_readsRows : ReadsRows lineAlphabet slRe slShape :=
  priceLine_readsRows (by decide) rfl

theorem tpRe_readsRows : ReadsRows lineAlphabet tpRe tpShape := by
  have size :
      ReadsOnwards lineAlphabet
        [.opt (.sequence
          [someSpaces, .group .pct numeral, .opt (.one (· == '%'))]),
          spaces, lineEnd]
        [[sizeTest], []] :=
    readsOnwards_lineEnd.opt readsWord_size rfl fun cursor =>
      matchAt_sequence_nested
  have level :=
    (size.cons readsWord_price rfl).readsLines readsWord_level rfl
  exact readsRows_of_readsLines
    (level.congr fun cursor => matchAt_sequence_join)

theorem levRe_readsRows : ReadsRows lineAlphabet levRe levShape := by
  have leverage :=
    (readsOnwards_lineEnd.cons readsWord_leverage rfl).readsLines
      readsWord_leverageKey rfl
  exact readsRows_of_readsLines
    (leverage.congr fun cursor => matchAt_sequence_join)

/-- No price and no size starts like a take-profit line. -/
theorem tpShape_keyed : Keyed tpShape := by
  have numeralFirst :
      ∀ char rest, isNumeralChar char = true →
        levelTest (char :: rest) = none := by
    intro char rest isNumeral
    refine if_neg ?_
    intro passed
    have first : foldsTo 'T' char = true :=
      (Bool.and_eq_true_iff.mp passed).1
    rw [foldsTo_T_of_isNumeralChar isNumeral] at first
    cases first
  have ofPrice :
      ∀ word, priceTest word ≠ none → levelTest word = none := by
    intro word passes
    cases word with
    | nil => rfl
    | cons char rest =>
        apply numeralFirst
        by_contra refused
        apply passes
        have notAll : ¬ (char :: rest).all isNumeralChar = true := by
          intro all
          exact refused (List.all_eq_true.mp all char List.mem_cons_self)
        rw [priceTest, groupTest, kindTest,
          if_neg (fun both => notAll both.2)]
        rfl
  have ofSize :
      ∀ word, sizeTest word ≠ none → levelTest word = none := by
    intro word passes
    cases word with
    | nil => rfl
    | cons char rest =>
        apply numeralFirst
        by_contra refused
        apply passes
        rw [sizeTest, leadingTest, List.takeWhile_cons_of_neg refused,
          if_pos rfl]
  have keys :
      ∀ others ∈ tpShape, ∀ key ∈ others.head?, key = levelTest := by
    simp [tpShape]
  intro tests isTests test isTest word passes others isOther key isKey
  rw [keys others isOther key isKey]
  have later : test = priceTest ∨ test = sizeTest := by
    simp only [tpShape, List.mem_cons, List.not_mem_nil, or_false] at isTests
    rcases isTests with rfl | rfl
    · simpa using isTest
    · exact Or.inl (by simpa using isTest)
  rcases later with rfl | rfl
  · exact ofPrice word passes
  · exact ofSize word passes

end Patterns

end GenericStructuredParser

end SafeSignalTrader
