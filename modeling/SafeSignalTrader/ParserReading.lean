import SafeSignalTrader.AsciiText
import SafeSignalTrader.GenericStructuredParser
import SafeSignalTrader.LineScanning
import SafeSignalTrader.SignalFormat

/-!
# How the patterns read the documented format

Each of the five patterns is a line pattern.  On the lines of the documented
format it reads its own kind, up to a line break in the white space behind the
line, and refuses the other kinds at their keyword.
-/

namespace SafeSignalTrader

open BacktrackingRegex PythonText SignalFormat

section Tokens

/-- A blank is white space and no line break. -/
theorem blank_space
    {char : Char}
    (blank : isBlank char = true) :
    isSpace char = true ∧ char ≠ '\n' := by
  simp only [isBlank, Bool.or_eq_true, beq_iff_eq] at blank
  rcases blank with rfl | rfl
  · decide
  · decide

/-- The letters of a spelling are letters. -/
theorem SignalFormat.Spelling.alpha
    {word : String}
    (spelling : Spelling word)
    (letters : word.toList.all Char.isAlpha = true) :
    ∀ char ∈ spelling.text, char.isAlpha = true := by
  intro char member
  apply isAlpha_of_toUpper
  apply List.all_eq_true.mp letters
  rw [← spelling.spells]
  exact List.mem_map_of_mem member

theorem SignalFormat.Spelling.length_text
    {word : String}
    (spelling : Spelling word) :
    spelling.text.length = word.toList.length := by
  rw [← spelling.spells, List.length_map]

theorem SignalFormat.Gap.spaces (gap : Gap) :
    ∀ char ∈ gap.text, isSpace char = true :=
  fun char member => (blank_space (gap.blank char member)).1

theorem SignalFormat.Spelling.nonempty
    {word : String}
    (spelling : Spelling word)
    (nonempty : word.toList ≠ []) :
    spelling.text ≠ [] := by
  intro empty
  have length := spelling.length_text
  rw [empty] at length
  exact nonempty (List.eq_nil_of_length_eq_zero length.symm)

/-- The letters of a spelling are no white space. -/
theorem SignalFormat.Spelling.solid
    {word : String}
    (spelling : Spelling word)
    (letters : word.toList.all Char.isAlpha = true) :
    ∀ char ∈ spelling.text, isSpace char = false := by
  intro char member
  apply isSpace_of_isAlphanum
  rw [Char.isAlphanum, spelling.alpha letters char member, Bool.true_or]

theorem SignalFormat.SymbolText.solid (symbol : SymbolText) :
    ∀ char ∈ symbol.text, isSpace char = false :=
  fun char member => isSpace_of_isAlphanum (symbol.alphanumeric char member)

/-- A digit string consists of symbols of a numeral. -/
theorem SignalFormat.NumberText.numeralChars (number : NumberText) :
    ∀ char ∈ number.text, isNumeralChar char = true := by
  have ofDigits :
      ∀ digits : DigitText, ∀ char ∈ digits.text,
        isNumeralChar char = true := by
    intro digits char member
    rw [isNumeralChar, isDigit_of_isDigit (digits.digits char member)]
    rfl
  intro char member
  unfold NumberText.text at member
  split at member
  · exact ofDigits _ char member
  · rcases List.mem_append.mp member with inWhole | inFraction
    · exact ofDigits _ char inWhole
    · rcases List.mem_cons.mp inFraction with isPoint | inDigits
      · subst isPoint
        decide
      · exact ofDigits _ char inDigits

theorem SignalFormat.NumberText.nonempty (number : NumberText) :
    number.text ≠ [] := by
  unfold NumberText.text
  split
  · exact number.whole.nonempty
  · simp

theorem SignalFormat.NumberText.solid (number : NumberText) :
    ∀ char ∈ number.text, isSpace char = false :=
  fun char member =>
    isSpace_of_isNumeralChar (number.numeralChars char member)

theorem SignalFormat.DigitText.solid (digits : DigitText) :
    ∀ char ∈ digits.text, isSpace char = false :=
  fun char member =>
    isSpace_of_isDigit (isDigit_of_isDigit (digits.digits char member))

/-- The number of a take-profit line is a digit from 1 to 5. -/
theorem SignalFormat.LevelIndex.digit (index : LevelIndex) :
    index.char.isDigit = true ∧ '1' ≤ index.char ∧ index.char ≤ '5' ∧
      index.char.toNat = 48 + index.value := by
  have bounds := index.inRange
  have code : index.char.toNat = 48 + index.value :=
    toNat_ofNat (by omega)
  have low : (49 : Nat) ≤ index.char.toNat := by omega
  have high : index.char.toNat ≤ 53 := by omega
  refine ⟨?_, low, high, code⟩
  simp only [Char.isDigit, Bool.and_eq_true, decide_eq_true_eq]
  exact ⟨Nat.le_trans (by decide) low, Nat.le_trans high (by decide)⟩

/-- A text without white space has no line break. -/
theorem unbroken_of_solid
    {text : List Char}
    (solid : ∀ char ∈ text, isSpace char = false) :
    '\n' ∉ text :=
  fun member => absurd (solid '\n' member) (by decide)

theorem SignalFormat.Gap.unbroken (gap : Gap) : '\n' ∉ gap.text :=
  fun member => (blank_space (gap.blank '\n' member)).2 rfl

/-- White space starts where a gap starts. -/
theorem SignalFormat.Gap.head_space
    (gap : Gap)
    (tail : List Char) :
    ∀ char ∈ (gap.text ++ tail).head?, isSpace char = true := by
  intro char isHead
  obtain ⟨first, others, shape⟩ := List.exists_cons_of_ne_nil gap.nonempty
  apply gap.spaces
  rw [shape] at isHead ⊢
  cases isHead
  exact List.mem_cons_self

theorem SignalFormat.SideWord.letters (side : SideWord) :
    side.word.toList ≠ [] ∧ side.word.toList.all Char.isAlpha = true := by
  cases side <;> decide

end Tokens

namespace GenericStructuredParser

/-- Line breaks, white space, and the letters that start a line. -/
def lineAlphabet : LineAlphabet Char where
  isBreak := isLineBreak
  isGap := isSpace
  opens := Char.isAlpha
  gapOfBreak := by
    intro char isBreak
    rw [isLineBreak, beq_iff_eq] at isBreak
    subst isBreak
    decide
  opensOutsideGap := by
    intro char alpha
    apply isSpace_of_isAlphanum
    rw [Char.isAlphanum, alpha, Bool.true_or]

section Words

/-- The tests of a word in any letter case. -/
def letterTests (letters : String) : List (Char → Bool) :=
  letters.toList.map foldsTo

theorem word_eq (letters : String) :
    word letters = .sequence ((letterTests letters).map .one) := by
  rw [word, letterTests, List.map_map]
  rfl

/-- A word does not tell letter cases apart. -/
theorem passes_toUpper (letters text : List Char) :
    Pattern.passes (letters.map foldsTo) (text.map Char.toUpper) =
      Pattern.passes (letters.map foldsTo) text := by
  induction letters generalizing text with
  | nil => rfl
  | cons letter letters inductionHypothesis =>
      cases text with
      | nil => rfl
      | cons char rest =>
          simp only [List.map_cons, Pattern.passes, foldsTo_toUpper,
            inductionHypothesis rest]

/-- On a spelled word, another word is compared with its capitals. -/
theorem passes_spelling
    {word : String}
    (letters : String)
    (spelling : Spelling word)
    (rest : List Char) :
    Pattern.passes (letterTests letters) (spelling.text ++ rest) =
      Pattern.passes (letterTests letters)
        (word.toList ++ rest.map Char.toUpper) := by
  rw [← spelling.spells, ← List.map_append]
  exact (passes_toUpper letters.toList (spelling.text ++ rest)).symm

/-- A word takes any spelling of it. -/
theorem takes_word
    {letters : String}
    (self : Pattern.passes (letterTests letters) letters.toList = true)
    (spelling : Spelling letters)
    (tail : List Char) :
    Pattern.Takes (word letters) spelling.text [] tail := by
  rw [word_eq]
  apply Pattern.takes_word
  · rw [letterTests, List.length_map, spelling.length_text]
  · rw [passes_spelling]
    exact Pattern.passes_append self _

/-- A word that the text does not start with fails. -/
theorem fails_word
    {letters : String}
    {text : List Char}
    (missed : Pattern.passes (letterTests letters) text = false) :
    Pattern.Fails (word letters) text := by
  rw [word_eq]
  exact Pattern.fails_word missed

/-- No word starts with white space or at the end of the text. -/
theorem fails_word_of_space
    {letters : String}
    (nonempty : letters.toList ≠ [])
    (alpha : letters.toList.all Char.isAlpha = true)
    {text : List Char}
    (space : ∀ char ∈ text.head?, isSpace char = true) :
    Pattern.Fails (word letters) text := by
  apply fails_word
  obtain ⟨first, others, shape⟩ := List.exists_cons_of_ne_nil nonempty
  have firstAlpha : first.isAlpha = true := by
    apply List.all_eq_true.mp alpha
    rw [shape]
    exact List.mem_cons_self
  rw [letterTests, shape, List.map_cons]
  cases text with
  | nil => rfl
  | cons char rest =>
      have refused : foldsTo first char = false :=
        foldsTo_of_isSpace firstAlpha (space char rfl)
      rw [Pattern.passes, refused, Bool.false_and]

end Words

section Keywords

/-- The keywords that start a line. -/
def keywords : List String :=
  ["SIGNAL", "ENTRY", "SL", "TP", "LEV"]

/-- The keyword of a line. -/
def keywordOf : SignalLine → String
  | .signal .. => "SIGNAL"
  | .entry .. => "ENTRY"
  | .stopLoss .. => "SL"
  | .takeProfit .. => "TP"
  | .leverage .. => "LEV"

theorem keywordOf_mem (line : SignalLine) : keywordOf line ∈ keywords := by
  cases line <;> simp [keywordOf, keywords]

/-- A line starts with a spelling of its keyword. -/
theorem exists_spelling (line : SignalLine) :
    ∃ (spelling : Spelling (keywordOf line)) (rest : List Char),
      line.text = spelling.text ++ rest := by
  cases line with
  | signal keyword => exact ⟨keyword, _, rfl⟩
  | entry keyword => exact ⟨keyword, _, rfl⟩
  | stopLoss keyword => exact ⟨keyword, _, rfl⟩
  | takeProfit keyword => exact ⟨keyword, _, rfl⟩
  | leverage keyword => exact ⟨keyword, _, rfl⟩

/-- Keywords consist of letters, and no keyword starts another one. -/
theorem keywords_apart :
    (keywords.all fun keyword =>
      !keyword.toList.isEmpty && keyword.toList.all Char.isAlpha &&
        keywords.all fun other =>
          Pattern.passes ((letterTests keyword).take other.toList.length)
            other.toList == (keyword == other)) = true := by
  decide

theorem keyword_letters
    {keyword : String}
    (known : keyword ∈ keywords) :
    keyword.toList ≠ [] ∧ keyword.toList.all Char.isAlpha = true := by
  have facts := List.all_eq_true.mp keywords_apart keyword known
  simp only [Bool.and_eq_true, Bool.not_eq_true'] at facts
  refine ⟨?_, facts.1.2⟩
  intro empty
  rw [empty] at facts
  cases facts.1.1

/-- A line whose keyword is another one is refused. -/
theorem passes_line_eq_false
    {keyword : String}
    (known : keyword ∈ keywords)
    {line : SignalLine}
    (other : keywordOf line ≠ keyword)
    (rest : List Char) :
    Pattern.passes (letterTests keyword) (line.text ++ rest) = false := by
  have facts := List.all_eq_true.mp keywords_apart keyword known
  simp only [Bool.and_eq_true] at facts
  have apart :=
    List.all_eq_true.mp facts.2 (keywordOf line) (keywordOf_mem line)
  obtain ⟨spelling, tail, shape⟩ := exists_spelling line
  rw [beq_iff_eq, beq_eq_false_iff_ne.mpr (Ne.symm other)] at apart
  rw [shape, List.append_assoc, passes_spelling, Pattern.passes_append_eq,
    apart, Bool.false_and]

/-- A line starts with a letter. -/
theorem line_opens (line : SignalLine) :
    ∃ char rest, line.text = char :: rest ∧ char.isAlpha = true := by
  obtain ⟨spelling, tail, shape⟩ := exists_spelling line
  obtain ⟨nonempty, letters⟩ := keyword_letters (keywordOf_mem line)
  cases text : spelling.text with
  | nil => exact absurd text (spelling.nonempty nonempty)
  | cons char rest =>
      refine ⟨char, rest ++ tail, by rw [shape, text]; rfl, ?_⟩
      apply spelling.alpha letters
      rw [text]
      exact List.mem_cons_self

/-- No character of a line is a line break. -/
theorem line_unbroken (line : SignalLine) :
    ∀ char ∈ line.text, isLineBreak char = false := by
  have noBreak : '\n' ∉ line.text := by
    cases line with
    | signal keyword gap side sideText symbolGap symbol =>
        have inKeyword := unbroken_of_solid (keyword.solid (by decide))
        have inSide := unbroken_of_solid (sideText.solid side.letters.2)
        have inSymbol := unbroken_of_solid symbol.solid
        simp [SignalLine.text, Gap.unbroken, inKeyword, inSide, inSymbol]
    | entry keyword gap price =>
        have inKeyword := unbroken_of_solid (keyword.solid (by decide))
        have inPrice := unbroken_of_solid price.solid
        simp [SignalLine.text, Gap.unbroken, inKeyword, inPrice]
    | stopLoss keyword gap price =>
        have inKeyword := unbroken_of_solid (keyword.solid (by decide))
        have inPrice := unbroken_of_solid price.solid
        simp [SignalLine.text, Gap.unbroken, inKeyword, inPrice]
    | takeProfit keyword index gap price size =>
        have inKeyword := unbroken_of_solid (keyword.solid (by decide))
        have inIndex : '\n' ≠ index.char := by
          intro same
          have digit := index.digit.1
          rw [← same] at digit
          exact absurd digit (by decide)
        have inPrice := unbroken_of_solid price.solid
        have inSize : '\n' ∉ (size.map SizeText.text).getD [] := by
          cases size with
          | none => simp
          | some size =>
              have inNumber := unbroken_of_solid size.number.solid
              cases sign : size.percentSign <;>
                simp [SizeText.text, sign, Gap.unbroken, inNumber]
        simp [SignalLine.text, Gap.unbroken, inKeyword, inIndex, inPrice,
          inSize]
    | leverage keyword ending gap value =>
        have inKeyword := unbroken_of_solid (keyword.solid (by decide))
        have inEnding : '\n' ∉ (ending.map Spelling.text).getD [] := by
          cases ending with
          | none => simp
          | some ending => exact unbroken_of_solid (ending.solid (by decide))
        have inValue := unbroken_of_solid value.solid
        simp [SignalLine.text, Gap.unbroken, inKeyword, inEnding, inValue]
  intro char member
  rw [isLineBreak, beq_eq_false_iff_ne]
  intro isBreak
  rw [isBreak] at member
  exact noBreak member

end Keywords

section Readings

variable {gap rest : List Char}

/-- A numeral ends where white space starts. -/
theorem numeral_ends
    {tail : List Char}
    (space : ∀ char ∈ tail.head?, isSpace char = true) :
    ∀ char ∈ tail.head?, isNumeralChar char = false :=
  fun char isHead => isNumeralChar_of_isSpace (space char isHead)

/-- White space ends where a text without white space starts. -/
theorem space_ends
    {text : List Char}
    (nonempty : text ≠ [])
    (solid : ∀ char ∈ text, isSpace char = false)
    (tail : List Char) :
    ∀ char ∈ (text ++ tail).head?, isSpace char = false := by
  intro char isHead
  cases text with
  | nil => exact absurd rfl nonempty
  | cons first others =>
      rw [List.cons_append, List.head?_cons, Option.mem_some_iff] at isHead
      rw [← isHead]
      exact solid first List.mem_cons_self

theorem space_ends_append
    {text : List Char}
    (nonempty : text ≠ [])
    (solid : ∀ char ∈ text, isSpace char = false)
    (more tail : List Char) :
    ∀ char ∈ ((text ++ more) ++ tail).head?, isSpace char = false := by
  rw [List.append_assoc]
  exact space_ends nonempty solid (more ++ tail)

theorem takes_someSpaces
    (between : Gap)
    {tail : List Char}
    (ends : ∀ char ∈ tail.head?, isSpace char = false) :
    Pattern.Takes someSpaces between.text [] tail :=
  Pattern.takes_oneOrMore between.nonempty between.spaces ends

theorem takes_numeral
    (number : NumberText)
    {tail : List Char}
    (ends : ∀ char ∈ tail.head?, isNumeralChar char = false) :
    Pattern.Takes numeral number.text [] tail :=
  Pattern.takes_oneOrMore number.nonempty number.numeralChars ends

/-- A pattern ends with the white space up to a line end. -/
theorem readsLine_end
    (ends : Pattern.EndsLine lineAlphabet gap rest) :
    Pattern.ReadsLine lineAlphabet (.sequence [spaces, lineEnd]) [] []
      gap rest :=
  Pattern.readsLine_lineEnd ends

/-- A price pattern reads its price. -/
theorem priceLine_reads
    {keyword : String}
    (self : Pattern.passes (letterTests keyword) keyword.toList = true)
    (spelling : Spelling keyword)
    (between : Gap)
    (price : NumberText)
    (ends : Pattern.EndsLine lineAlphabet gap rest) :
    Pattern.ReadsLine lineAlphabet
      (.sequence
        [word keyword, someSpaces, .group .price numeral, spaces, lineEnd])
      (spelling.text ++ (between.text ++ price.text))
      [(.price, price.text)] gap rest := by
  have takesPrice :
      Pattern.Takes numeral price.text [] ([] ++ (gap ++ rest)) :=
    takes_numeral price (numeral_ends ends.head_isGap)
  have readsPrice :=
    (readsLine_end ends).cons (takesPrice.group CaptureName.price)
  rw [List.append_nil] at readsPrice
  have readsGap :=
    readsPrice.cons
      (takes_someSpaces between
        (space_ends price.nonempty price.solid _))
  exact readsGap.cons (takes_word self spelling _)

/-- A side word is the first alternative that the text starts with. -/
theorem takes_side
    (side : SideWord)
    (spelling : Spelling side.word)
    (tail : List Char) :
    Pattern.Takes
      (.alt (word "LONG") (.alt (word "SHORT") (.alt (word "BUY")
        (word "SELL"))))
      spelling.text [] tail := by
  have missed :
      ∀ letters,
        Pattern.passes ((letterTests letters).take side.word.toList.length)
            side.word.toList = false →
          Pattern.Fails (word letters) (spelling.text ++ tail) := by
    intro letters apart
    apply fails_word
    rw [passes_spelling, Pattern.passes_append_eq, apart, Bool.false_and]
  cases side with
  | long =>
      exact (takes_word (by decide) spelling tail).alt_left
  | short =>
      exact ((takes_word (by decide) spelling tail).alt_left).alt_right
        (missed "LONG" (by decide))
  | buy =>
      exact (((takes_word (by decide) spelling tail).alt_left).alt_right
        (missed "SHORT" (by decide))).alt_right (missed "LONG" (by decide))
  | sell =>
      exact (((takes_word (by decide) spelling tail).alt_right
        (missed "BUY" (by decide))).alt_right
          (missed "SHORT" (by decide))).alt_right (missed "LONG" (by decide))

/-- The signal pattern reads the side word and the symbol. -/
theorem signalLine_reads
    (keyword : Spelling "SIGNAL")
    (between : Gap)
    (side : SideWord)
    (sideText : Spelling side.word)
    (symbolGap : Gap)
    (symbol : SymbolText)
    (ends : Pattern.EndsLine lineAlphabet gap rest) :
    Pattern.ReadsLine lineAlphabet
      (.sequence
        [word "SIGNAL", someSpaces,
          .group .side
            (.alt (word "LONG") (.alt (word "SHORT") (.alt (word "BUY")
              (word "SELL")))),
          someSpaces, .group .symbol (.oneOrMore isAlnumIgnoreCase),
          spaces, lineEnd])
      (SignalLine.signal keyword between side sideText symbolGap symbol).text
      [(.side, sideText.text), (.symbol, symbol.text)] gap rest := by
  have takesSymbol :
      Pattern.Takes (.oneOrMore isAlnumIgnoreCase) symbol.text
        ([] : List (CaptureName × List Char)) ([] ++ (gap ++ rest)) :=
    Pattern.takes_oneOrMore symbol.nonempty
      (fun char member =>
        isAlnumIgnoreCase_of_isAlphanum (symbol.alphanumeric char member))
      (fun char isHead =>
        isAlnumIgnoreCase_of_isSpace (ends.head_isGap char isHead))
  have readsSymbol :=
    (readsLine_end ends).cons (takesSymbol.group CaptureName.symbol)
  rw [List.append_nil] at readsSymbol
  have readsSymbolGap :=
    readsSymbol.cons
      (takes_someSpaces symbolGap
        (space_ends symbol.nonempty symbol.solid _))
  have readsSide :=
    readsSymbolGap.cons
      ((takes_side side sideText _).group CaptureName.side)
  have readsGap :=
    readsSide.cons
      (takes_someSpaces between
        (space_ends_append (sideText.nonempty side.letters.1)
          (sideText.solid side.letters.2) _ _))
  exact readsGap.cons (takes_word (by decide) keyword _)

/-- White space up to the end of a line is no size. -/
theorem fails_size
    {patterns : List TextPattern}
    (ends : Pattern.EndsLine lineAlphabet gap rest) :
    Pattern.Fails
      (.sequence (someSpaces :: .group .pct numeral :: patterns))
      (gap ++ rest) := by
  apply Pattern.fails_oneOrMore_then ends.inside ends.gapEnds
  intro before others shape
  apply Pattern.Fails.sequence
  apply Pattern.Fails.group
  apply Pattern.fails_oneOrMore
  intro char isHead
  cases others with
  | cons first remaining =>
      rw [List.cons_append, List.head?_cons, Option.mem_some_iff] at isHead
      subst isHead
      apply isNumeralChar_of_isSpace
      apply ends.inside
      rw [shape]
      exact List.mem_append_right before List.mem_cons_self
  | nil => exact isNumeralChar_of_isAlpha (ends.opens char isHead)

/-- A size is taken with its percent sign, if it has one. -/
theorem takes_size
    (size : SizeText)
    (ends : Pattern.EndsLine lineAlphabet gap rest) :
    Pattern.Takes
      (.sequence
        [someSpaces, .group .pct numeral, .opt (.one (· == '%'))])
      size.text [(CaptureName.pct, size.number.text)] (gap ++ rest) := by
  have takesSign :
      Pattern.Takes (.opt (.one (· == '%')))
        (if size.percentSign then ['%'] else [])
        ([] : List (CaptureName × List Char)) ([] ++ (gap ++ rest)) := by
    cases size.percentSign with
    | true => exact (Pattern.takes_one rfl).opt
    | false =>
        apply Pattern.Fails.opt
        apply Pattern.fails_one
        intro char isHead
        have space := ends.head_isGap char isHead
        rw [beq_eq_false_iff_ne]
        intro isSign
        subst isSign
        revert space
        decide
  have signEnds :
      ∀ char ∈
        ((if size.percentSign then ['%'] else []) ++ (gap ++ rest)).head?,
        isNumeralChar char = false := by
    cases size.percentSign with
    | true =>
        intro char isHead
        cases isHead
        decide
    | false => exact numeral_ends ends.head_isGap
  have takesRest := takesSign.sequence Pattern.takes_sequence_nil
  rw [List.append_nil] at takesRest
  have takesNumber :=
    ((takes_numeral size.number signEnds).group CaptureName.pct).sequence
      takesRest
  exact (takes_someSpaces size.gap
    (space_ends_append size.number.nonempty size.number.solid _ _)).sequence
      takesNumber

/-- What the take-profit pattern captures of a size. -/
def sizeGroups (size : Option SizeText) : List (CaptureName × List Char) :=
  match size with
  | none => []
  | some size => [(.pct, size.number.text)]

/-- The take-profit pattern reads the index, the price and the size. -/
theorem tpLine_reads
    (keyword : Spelling "TP")
    (index : LevelIndex)
    (between : Gap)
    (price : NumberText)
    (size : Option SizeText)
    (ends : Pattern.EndsLine lineAlphabet gap rest) :
    Pattern.ReadsLine lineAlphabet
      (.sequence
        [word "TP", .group .idx (.one fun char => '1' ≤ char && char ≤ '5'),
          someSpaces, .group .price numeral,
          .opt (.sequence
            [someSpaces, .group .pct numeral, .opt (.one (· == '%'))]),
          spaces, lineEnd])
      (SignalLine.takeProfit keyword index between price size).text
      ((.idx, [index.char]) :: (.price, price.text) :: sizeGroups size)
      gap rest := by
  have takesSize :
      Pattern.Takes
        (.opt (.sequence
          [someSpaces, .group .pct numeral, .opt (.one (· == '%'))]))
        ((size.map SizeText.text).getD []) (sizeGroups size)
        ([] ++ (gap ++ rest)) := by
    cases size with
    | none => exact (fails_size ends).opt
    | some size => exact (takes_size size ends).opt
  have sizeEnds :
      ∀ char ∈ ((size.map SizeText.text).getD [] ++ (gap ++ rest)).head?,
        isSpace char = true := by
    cases size with
    | none => exact ends.head_isGap
    | some size =>
        rw [Option.map_some, Option.getD_some, SizeText.text,
          List.append_assoc]
        exact size.gap.head_space _
  have readsSize := (readsLine_end ends).cons takesSize
  rw [List.append_nil, List.append_nil] at readsSize
  have readsPrice :=
    readsSize.cons
      ((takes_numeral price (numeral_ends sizeEnds)).group CaptureName.price)
  have readsGap :=
    readsPrice.cons
      (takes_someSpaces between
        (space_ends_append price.nonempty price.solid _ _))
  obtain ⟨_, low, high, _⟩ := index.digit
  have accepted : ('1' ≤ index.char && index.char ≤ '5') = true := by
    simp only [Bool.and_eq_true, decide_eq_true_eq]
    exact ⟨low, high⟩
  have takesIndex :=
    @Pattern.takes_one CaptureName Char
      (fun char => '1' ≤ char && char ≤ '5')
      ((between.text ++ (price.text ++ (size.map SizeText.text).getD [])) ++
        (gap ++ rest))
      index.char accepted
  have readsIndex := readsGap.cons (takesIndex.group CaptureName.idx)
  exact readsIndex.cons (takes_word (by decide) keyword _)

/-- The leverage pattern reads the leverage, after either keyword. -/
theorem levLine_reads
    (keyword : Spelling "LEV")
    (ending : Option (Spelling "ERAGE"))
    (between : Gap)
    (value : LeverageText)
    (ends : Pattern.EndsLine lineAlphabet gap rest) :
    Pattern.ReadsLine lineAlphabet
      (.sequence
        [word "LEV", .opt (word "ERAGE"), someSpaces,
          .group .lev (.oneOrMore isDigit), spaces, lineEnd])
      (SignalLine.leverage keyword ending between value).text
      [(.lev, value.text)] gap rest := by
  have takesValue :
      Pattern.Takes (.oneOrMore isDigit) value.text
        ([] : List (CaptureName × List Char)) ([] ++ (gap ++ rest)) := by
    apply Pattern.takes_oneOrMore value.nonempty
    · intro char member
      exact isDigit_of_isDigit (value.digits char member)
    · intro char isHead
      have notNumeral := numeral_ends ends.head_isGap char isHead
      rw [isNumeralChar, Bool.or_eq_false_iff] at notNumeral
      exact notNumeral.1
  have readsValue :=
    (readsLine_end ends).cons (takesValue.group CaptureName.lev)
  rw [List.append_nil] at readsValue
  have readsGap :=
    readsValue.cons
      (takes_someSpaces between
        (space_ends value.nonempty value.solid _))
  have takesEnding :
      Pattern.Takes (.opt (word "ERAGE"))
        ((ending.map Spelling.text).getD [])
        ([] : List (CaptureName × List Char))
        ((between.text ++ value.text) ++ (gap ++ rest)) := by
    cases ending with
    | some ending => exact (takes_word (by decide) ending _).opt
    | none =>
        apply Pattern.Fails.opt
        apply fails_word_of_space
        · decide
        · decide
        · rw [List.append_assoc]
          exact between.head_space _
  have readsEnding := readsGap.cons takesEnding
  exact readsEnding.cons (takes_word (by decide) keyword _)

end Readings

section Lines

/-- What a pattern captures of a line; `none` if it does not match there. -/
abbrev Reading :=
  SignalLine → Option (List (CaptureName × List Char))

/-- The captures of the signal pattern. -/
def signalReading : Reading
  | .signal _ _ _ sideText _ symbol =>
      some [(.side, sideText.text), (.symbol, symbol.text)]
  | _ => none

/-- The captures of the entry pattern. -/
def entryReading : Reading
  | .entry _ _ price => some [(.price, price.text)]
  | _ => none

/-- The captures of the stop-loss pattern. -/
def slReading : Reading
  | .stopLoss _ _ price => some [(.price, price.text)]
  | _ => none

/-- The captures of the take-profit pattern. -/
def tpReading : Reading
  | .takeProfit _ index _ price size =>
      some ((.idx, [index.char]) :: (.price, price.text) :: sizeGroups size)
  | _ => none

/-- The captures of the leverage pattern. -/
def levReading : Reading
  | .leverage _ _ _ value => some [(.lev, value.text)]
  | _ => none

/-- A pattern with a keyword reads its own lines and refuses the others. -/
theorem readsItems_of_keyword
    {keyword : String}
    (known : keyword ∈ keywords)
    {patterns : List TextPattern}
    {reading : Reading}
    (unread : ∀ line, reading line = none → keywordOf line ≠ keyword)
    (reads : ∀ line groups gap rest, reading line = some groups →
      Pattern.EndsLine lineAlphabet gap rest →
        Pattern.ReadsLine lineAlphabet
          (.sequence (word keyword :: patterns)) line.text groups gap rest) :
    Pattern.ReadsItems lineAlphabet (.sequence (word keyword :: patterns))
      SignalLine.text reading := by
  obtain ⟨nonempty, letters⟩ := keyword_letters known
  constructor
  · exact line_opens
  · exact line_unbroken
  · intro behind char rest space
    have failed :=
      @fails_word_of_space keyword nonempty letters (char :: rest)
        (by simpa [lineAlphabet] using space)
    exact failed.sequence.matchAt behind
  · intro behind
    have failed := @fails_word_of_space keyword nonempty letters [] (by simp)
    exact failed.sequence.matchAt behind
  · intro line behind rest isNone
    have failed :=
      fails_word (passes_line_eq_false known (unread line isNone) rest)
    exact failed.sequence.matchAt behind
  · exact reads

/-- A pattern finds the lines of its kind, with their captures. -/
def Finds (pattern : TextPattern) (reading : Reading) : Prop :=
  ∀ (gap : List Char) (items : List (SignalLine × List Char)),
    (∀ char ∈ gap, isSpace char = true) →
      Pattern.Separated lineAlphabet items →
        (pattern.findIter
            (gap ++ Pattern.itemsText SignalLine.text items)).map
            Match.groups =
          items.filterMap fun entry => reading entry.1

/-- A line pattern that reads lines finds them. -/
theorem finds_of_readsItems
    {core : TextPattern}
    {reading : Reading}
    (readsItems :
      Pattern.ReadsItems lineAlphabet core SignalLine.text reading) :
    Finds (Pattern.linePattern lineAlphabet core) reading :=
  fun _ _ gapInside separated =>
    readsItems.findIterFrom_groups gapInside (Or.inr (Or.inl rfl)) separated

theorem signalRe_finds : Finds signalRe signalReading := by
  apply finds_of_readsItems
  apply readsItems_of_keyword
  · decide
  · intro line
    cases line <;> simp [signalReading, keywordOf]
  · intro line groups gap rest isSome ends
    cases line with
    | signal keyword between side sideText symbolGap symbol =>
        cases isSome
        exact signalLine_reads keyword between side sideText symbolGap
          symbol ends
    | entry => cases isSome
    | stopLoss => cases isSome
    | takeProfit => cases isSome
    | leverage => cases isSome

theorem entryRe_finds : Finds entryRe entryReading := by
  apply finds_of_readsItems
  apply readsItems_of_keyword
  · decide
  · intro line
    cases line <;> simp [entryReading, keywordOf]
  · intro line groups gap rest isSome ends
    cases line with
    | entry keyword between price =>
        cases isSome
        exact priceLine_reads (by decide) keyword between price ends
    | signal => cases isSome
    | stopLoss => cases isSome
    | takeProfit => cases isSome
    | leverage => cases isSome

theorem slRe_finds : Finds slRe slReading := by
  apply finds_of_readsItems
  apply readsItems_of_keyword
  · decide
  · intro line
    cases line <;> simp [slReading, keywordOf]
  · intro line groups gap rest isSome ends
    cases line with
    | stopLoss keyword between price =>
        cases isSome
        exact priceLine_reads (by decide) keyword between price ends
    | signal => cases isSome
    | entry => cases isSome
    | takeProfit => cases isSome
    | leverage => cases isSome

theorem tpRe_finds : Finds tpRe tpReading := by
  apply finds_of_readsItems
  apply readsItems_of_keyword
  · decide
  · intro line
    cases line <;> simp [tpReading, keywordOf]
  · intro line groups gap rest isSome ends
    cases line with
    | takeProfit keyword index between price size =>
        cases isSome
        exact tpLine_reads keyword index between price size ends
    | signal => cases isSome
    | entry => cases isSome
    | stopLoss => cases isSome
    | leverage => cases isSome

theorem levRe_finds : Finds levRe levReading := by
  apply finds_of_readsItems
  apply readsItems_of_keyword
  · decide
  · intro line
    cases line <;> simp [levReading, keywordOf]
  · intro line groups gap rest isSome ends
    cases line with
    | leverage keyword ending between value =>
        cases isSome
        exact levLine_reads keyword ending between value ends
    | signal => cases isSome
    | entry => cases isSome
    | stopLoss => cases isSome
    | takeProfit => cases isSome

end Lines

end GenericStructuredParser

end SafeSignalTrader
