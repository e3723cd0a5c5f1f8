import SafeSignalTrader.FormatLines

/-!
# The line-based format

The documented format says one thing a line.  The parser keeps to it exactly
on the texts where nothing it takes goes over the end of a line without being
on some line by itself as well.
-/

namespace SafeSignalTrader

open BacktrackingRegex PythonText Pattern

namespace GenericStructuredParser

section Values

/-- The lines of a text, split at the newlines. -/
def textLines (text : String) : List (List Char) :=
  text.toList.splitOn '\n'

/-- The lines that are not blank, each as its words. -/
def textRows (text : String) : List (List (List Char)) :=
  rowsOf lineAlphabet text.toList

/-- The side and the symbol that captures say. -/
def signalSaid (groups : List (CaptureName × List Char)) :
    Option (Side × String) :=
  match sideOf (capturedIn groups .side) with
  | .ok side => some (side, normalizeSymbol (capturedIn groups .symbol))
  | .error _ => none

/-- The price that captures say. -/
def priceSaid (groups : List (CaptureName × List Char)) : Option Decimal :=
  toDecimal (capturedIn groups .price)

/-- The leverage that captures say. -/
def leverageSaid (groups : List (CaptureName × List Char)) : Option Nat :=
  (toInt (capturedIn groups .lev)).toOption

/-- The take-profit level that captures say. -/
def levelSaid (groups : List (CaptureName × List Char)) :
    Option TakeProfitLevel :=
  match levelOf ⟨[], groups, ⟨none, []⟩⟩ with
  | .ok level => level
  | .error _ => none

/-- Every value of a signal is written on one single line of the text. -/
structure OnOneLine (text : String) (signal : NormalizedSignal) : Prop where
  sideAndSymbol :
    ∃ line ∈ textLines text, ∃ found, signalRe.search line = some found ∧
      sideOf (captured found .side) = .ok signal.side ∧
        normalizeSymbol (captured found .symbol) = signal.symbol
  entryPrice :
    ∀ price, signal.entryPrice = some price →
      ∃ line ∈ textLines text, firstPrice entryRe line = some price
  stopLoss :
    ∀ price, signal.stopLoss = some price →
      ∃ line ∈ textLines text, firstPrice slRe line = some price
  leverage :
    ∀ leverage, signal.leverage = some leverage →
      ∃ line ∈ textLines text, leverageIn line = .ok (some leverage)
  takeProfits :
    ∀ level ∈ signal.takeProfits,
      ∃ line ∈ textLines text, ∃ found, tpRe.search line = some found ∧
        levelOf found = .ok (some level)

/-- No value that the words of a text say is split over its lines. -/
structure Unsplit (text : String) : Prop where
  sideAndSymbol : ¬ FirstSplit signalShape signalSaid (textRows text)
  entryPrice : ¬ FirstSplit entryShape priceSaid (textRows text)
  stopLoss : ¬ FirstSplit slShape priceSaid (textRows text)
  leverage : ¬ FirstSplit levShape leverageSaid (textRows text)
  takeProfits : ¬ SomeSplit tpShape levelSaid (textRows text)

theorem signalSaid_eq_some_iff
    {found : TextMatch}
    {side : Side}
    {symbol : String} :
    signalSaid found.groups = some (side, symbol) ↔
      sideOf (captured found .side) = .ok side ∧
        normalizeSymbol (captured found .symbol) = symbol := by
  have sameSide : capturedIn found.groups .side = captured found .side := rfl
  have sameSymbol :
      capturedIn found.groups .symbol = captured found .symbol := rfl
  rw [signalSaid, sameSide, sameSymbol]
  cases sideOf (captured found .side) with
  | error raised => simp
  | ok read => simp

theorem levelSaid_eq_some_iff
    {found : TextMatch}
    {level : TakeProfitLevel} :
    levelSaid found.groups = some level ↔
      levelOf found = .ok (some level) := by
  have same : levelOf ⟨[], found.groups, ⟨none, []⟩⟩ = levelOf found := rfl
  rw [levelSaid, same]
  cases levelOf found with
  | error raised => simp
  | ok read => simp

theorem firstPrice_eq_some_iff
    {pattern : TextPattern}
    {text : List Char}
    {price : Decimal} :
    firstPrice pattern text = some price ↔
      ∃ found, pattern.search text = some found ∧
        priceSaid found.groups = some price :=
  Option.bind_eq_some_iff

theorem leverageIn_eq_some_iff
    {text : List Char}
    {leverage : Nat} :
    leverageIn text = .ok (some leverage) ↔
      ∃ found, levRe.search text = some found ∧
        leverageSaid found.groups = some leverage := by
  unfold leverageIn
  cases levRe.search text with
  | none => simp
  | some found =>
      have same : capturedIn found.groups .lev = captured found .lev := rfl
      simp only [Option.some.injEq, exists_eq_left', leverageSaid, same]
      cases toInt (captured found .lev) with
      | error raised => simp [Except.map, Except.toOption]
      | ok value => simp [Except.map, Except.toOption]

end Values

section Parsed

variable {computeHash : String → String}
variable {signalId : UUID}
variable {text sourceId : String}
variable {messageId : Option String}
variable {rawHash : Option PyString}
variable {signal : NormalizedSignal}

/-- What the side, the symbol, the levels and the leverage are read from. -/
theorem parse_reads
    (parsed :
      parse computeHash signalId text sourceId messageId rawHash =
        .ok (some signal)) :
    ∃ found levels, signalRe.search text.toList = some found ∧
      sideOf (captured found .side) = .ok signal.side ∧
        normalizeSymbol (captured found .symbol) = signal.symbol ∧
          collectLevels (tpRe.findIter text.toList) = .ok levels ∧
            signal.takeProfits =
                levels.insertionSort
                  (fun first second => first.index ≤ second.index) ∧
              leverageIn text.toList = .ok signal.leverage := by
  obtain ⟨found, side, levels, leverage, hash, located, isSide, collected,
    isLeverage, created⟩ := parse_created parsed
  rw [NormalizedSignal.create_ok created]
  exact ⟨found, levels, located, isSide, rfl, collected, rfl, isLeverage⟩

end Parsed

section Length

/-- The words of a text are in it. -/
theorem solidCount_laid
    {words : List (LineWord Char)}
    {text : List Char}
    (laid : Laid lineAlphabet words text) :
    solidCount text = (words.map fun word => word.text.length).sum ∧
      ∀ word ∈ words, 0 < word.text.length := by
  induction laid with
  | nil => simp [solidCount]
  | @cons word gap rest endsLine words nonempty solid follows others
      inductionHypothesis =>
      obtain ⟨sum, positive⟩ := inductionHypothesis
      have blank : solidCount gap = 0 := by
        rw [solidCount, List.countP_eq_zero]
        intro char member
        have space : isSpace char = true := follows.inside char member
        simp [space]
      refine ⟨?_, List.forall_mem_cons.mpr
        ⟨List.length_pos_of_ne_nil nonempty, positive⟩⟩
      rw [solidCount_append, solidCount_append, solidCount_of_solid solid,
        blank, sum]
      simp

/-- A signal is read from three words, the first one of six letters. -/
theorem words_of_signal
    {words : List (LineWord Char)}
    {reading : List (CaptureName × List Char) × Nat}
    (read : readShape signalShape false words = some reading) :
    ∃ keyword side symbol rest,
      words = keyword :: side :: symbol :: rest ∧
        keyword.text.length = 6 := by
  obtain ⟨tests, isTests, passed⟩ := List.exists_of_findSome?_eq_some read
  rw [signalShape, List.mem_singleton] at isTests
  subst isTests
  obtain ⟨groups, passes, _⟩ := Option.map_eq_some_iff.mp passed
  rcases words with _ | ⟨keyword, _ | ⟨side, _ | ⟨symbol, rest⟩⟩⟩
  · cases passes
  · simp [readWords, bind] at passes
  · simp [readWords, bind] at passes
  · simp only [readWords, bind, Option.bind_eq_some_iff] at passes
    obtain ⟨first, isKeyword, _⟩ := passes
    refine ⟨keyword, side, symbol, rest, rfl, ?_⟩
    by_contra otherLength
    have refused : keywordTest "SIGNAL" keyword.text = none :=
      lettersTest_of_length otherLength
    rw [refused] at isKeyword
    cases isKeyword

/-- The three words of a signal make a text long enough. -/
theorem solidCount_of_signal
    {text : List Char}
    {found : TextMatch}
    (located : signalRe.search text = some found) :
    8 ≤ solidCount text := by
  have searched := signalRe_readsRows.search_groups text
  rw [located] at searched
  have isRead := List.mem_of_mem_head? searched.symm
  obtain ⟨later, isTail, read⟩ := List.mem_filterMap.mp isRead
  obtain ⟨reading, reads, _⟩ := Option.map_eq_some_iff.mp read
  obtain ⟨keyword, side, symbol, rest, isWords, sixLetters⟩ :=
    words_of_signal reads
  obtain ⟨gap, body, isText, _, laid⟩ := exists_laid lineAlphabet text
  obtain ⟨earlier, isRows⟩ := (List.mem_tails _ _).mp isTail
  obtain ⟨sum, positive⟩ := solidCount_laid laid
  have bodyLong : 8 ≤ solidCount body := by
    have allWords :
        markRows (rowsOf lineAlphabet text) =
          markRows earlier ++ keyword :: side :: symbol :: rest := by
      rw [← isRows, ← isWords, markRows, List.flatMap_append]
      rfl
    rw [allWords] at sum positive
    have sidePositive := positive side (by simp)
    have symbolPositive := positive symbol (by simp)
    rw [sum]
    simp only [List.map_append, List.map_cons, List.sum_append,
      List.sum_cons]
    omega
  rw [isText, solidCount_append]
  exact Nat.le_trans bodyLong (Nat.le_add_left _ _)

/-- A text that a signal is read from is long enough for `can_parse`. -/
theorem canParse_iff (text : String) :
    canParse text = true ↔
      (signalRe.search text.toList).isSome = true := by
  constructor
  · intro accepted
    unfold canParse at accepted
    split at accepted
    · cases accepted
    · exact accepted
  · intro located
    obtain ⟨found, isFound⟩ := Option.isSome_iff_exists.mp located
    have long : 8 ≤ (strip text.toList).length := by
      calc
        8 ≤ solidCount text.toList := solidCount_of_signal isFound
        _ = solidCount (strip text.toList) := (solidCount_strip _).symm
        _ ≤ (strip text.toList).length := List.countP_le_length
    have notShort :
        ¬ (text = "" ∨ (strip text.toList).length < 8) := by
      rintro (empty | short)
      · rw [empty] at long
        exact absurd long (by decide)
      · exact absurd long (Nat.not_le.mpr short)
    rw [canParse, if_neg notShort]
    exact located

end Length

section Splits

variable {pattern : TextPattern}
variable {shape : List (List (WordTest CaptureName Char))}
variable {Value : Type}
variable {value : List (CaptureName × List Char) → Option Value}

/-- What a search says is said by a line, unless it is split. -/
theorem searched_onOneLine_iff
    (readsRows : ReadsRows lineAlphabet pattern shape)
    (text : String) :
    (∀ said, (∃ found, pattern.search text.toList = some found ∧
          value found.groups = some said) →
        ∃ line ∈ textLines text, ∃ found,
          pattern.search line = some found ∧
            value found.groups = some said) ↔
      ¬ FirstSplit shape value (textRows text) := by
  rw [textRows, ← readsRows.search_onOneLine_iff text.toList]
  constructor
  · intro onOneLine found said isFound tells
    exact onOneLine said ⟨found, isFound, tells⟩
  · rintro onOneLine said ⟨found, isFound, tells⟩
    exact onOneLine found said isFound tells

theorem firstPrice_onOneLine_iff
    (readsRows : ReadsRows lineAlphabet pattern shape)
    (text : String) :
    (∀ price, firstPrice pattern text.toList = some price →
        ∃ line ∈ textLines text, firstPrice pattern line = some price) ↔
      ¬ FirstSplit shape priceSaid (textRows text) := by
  simp only [firstPrice_eq_some_iff]
  exact searched_onOneLine_iff readsRows text

/-- The side and the symbol of a parsed signal. -/
theorem sideAndSymbol_onOneLine_iff
    {text : String}
    {found : TextMatch}
    {side : Side}
    {symbol : String}
    (located : signalRe.search text.toList = some found)
    (isSide : sideOf (captured found .side) = .ok side)
    (isSymbol : normalizeSymbol (captured found .symbol) = symbol) :
    (∃ line ∈ textLines text, ∃ found, signalRe.search line = some found ∧
        sideOf (captured found .side) = .ok side ∧
          normalizeSymbol (captured found .symbol) = symbol) ↔
      ¬ FirstSplit signalShape signalSaid (textRows text) := by
  have tells : signalSaid found.groups = some (side, symbol) :=
    signalSaid_eq_some_iff.mpr ⟨isSide, isSymbol⟩
  rw [← searched_onOneLine_iff signalRe_readsRows text]
  simp only [← signalSaid_eq_some_iff]
  constructor
  · rintro onOneLine said ⟨other, isOther, otherTells⟩
    rw [located] at isOther
    cases isOther
    rw [tells] at otherTells
    cases otherTells
    exact onOneLine
  · intro onOneLine
    exact onOneLine (side, symbol) ⟨found, located, tells⟩

/-- The take-profit levels of a parsed signal. -/
theorem takeProfits_onOneLine_iff
    {text : String}
    {levels : List TakeProfitLevel}
    (collected : collectLevels (tpRe.findIter text.toList) = .ok levels) :
    (∀ level ∈ levels,
        ∃ line ∈ textLines text, ∃ found, tpRe.search line = some found ∧
          levelOf found = .ok (some level)) ↔
      ¬ SomeSplit tpShape levelSaid (textRows text) := by
  rw [textRows, ← tpRe_readsRows.findIter_onOneLine_iff tpShape_keyed
    text.toList]
  simp only [levelSaid_eq_some_iff, mem_collectLevels_iff collected]
  constructor
  · intro onOneLine found level member made
    exact onOneLine level ⟨found, member, made⟩
  · rintro onOneLine level ⟨found, member, made⟩
    exact onOneLine found level member made

end Splits

/-- A parsed signal is on single lines exactly if nothing it says is split. -/
theorem onOneLine_iff
    {computeHash : String → String}
    {signalId : UUID}
    {text sourceId : String}
    {messageId : Option String}
    {rawHash : Option PyString}
    {signal : NormalizedSignal}
    (parsed :
      parse computeHash signalId text sourceId messageId rawHash =
        .ok (some signal)) :
    OnOneLine text signal ↔ Unsplit text := by
  obtain ⟨found, levels, located, isSide, isSymbol, collected, takeProfits,
    isLeverage⟩ := parse_reads parsed
  obtain ⟨_, _, _, entryPrice, _, stopLoss⟩ := parse_spec parsed
  have signalLine := sideAndSymbol_onOneLine_iff located isSide isSymbol
  have entryLine := firstPrice_onOneLine_iff entryRe_readsRows text
  have stopLine := firstPrice_onOneLine_iff slRe_readsRows text
  have leverageLine :=
    @searched_onOneLine_iff _ _ _ leverageSaid levRe_readsRows text
  have levelLines := takeProfits_onOneLine_iff collected
  rw [← entryPrice] at entryLine
  rw [← stopLoss] at stopLine
  simp only [← leverageIn_eq_some_iff, isLeverage, Except.ok.injEq]
    at leverageLine
  have sameLevels : ∀ level, level ∈ signal.takeProfits ↔ level ∈ levels := by
    intro level
    rw [takeProfits, List.mem_insertionSort]
  simp only [← sameLevels] at levelLines
  constructor
  · intro onOneLine
    exact ⟨signalLine.mp onOneLine.sideAndSymbol,
      entryLine.mp onOneLine.entryPrice, stopLine.mp onOneLine.stopLoss,
      leverageLine.mp onOneLine.leverage,
      levelLines.mp onOneLine.takeProfits⟩
  · intro unsplit
    exact ⟨signalLine.mpr unsplit.sideAndSymbol,
      entryLine.mpr unsplit.entryPrice, stopLine.mpr unsplit.stopLoss,
      leverageLine.mpr unsplit.leverage,
      levelLines.mpr unsplit.takeProfits⟩

/-- A text is recognized by a single line exactly if no signal is split. -/
theorem recognizedByLine_iff (text : String) :
    (canParse text = true →
        ∃ line ∈ textLines text, (signalRe.search line).isSome = true) ↔
      ¬ FirstSplit signalShape (fun _ => some ()) (textRows text) := by
  rw [← searched_onOneLine_iff signalRe_readsRows text, canParse_iff]
  simp only [and_true, Option.isSome_iff_exists]
  constructor
  · rintro onOneLine _ located
    exact onOneLine located
  · intro onOneLine located
    exact onOneLine () located

/--
The format is line-based on a text exactly if no signal, and no value of a
parsed signal, is split over its lines.
-/
theorem lineBased_iff (text : String) :
    ((canParse text = true →
        ∃ line ∈ textLines text, (signalRe.search line).isSome = true) ↔
      ¬ FirstSplit signalShape (fun _ => some ()) (textRows text)) ∧
    ∀ computeHash signalId sourceId messageId rawHash signal,
      parse computeHash signalId text sourceId messageId rawHash =
          .ok (some signal) →
        (OnOneLine text signal ↔ Unsplit text) :=
  ⟨recognizedByLine_iff text, fun _ _ _ _ _ _ parsed =>
    onOneLine_iff parsed⟩

/-- A message with every value on a line of its own. -/
theorem lineBased_golden :
    ∃ signal,
      parse (fun _ => "hash") 1
          "SIGNAL SHORT ETH\nENTRY 3400\nSL 3500.5\nTP1 3200 50%\nLEV 10"
          "src_demo_alpha" none none = .ok (some signal) ∧
        OnOneLine
          "SIGNAL SHORT ETH\nENTRY 3400\nSL 3500.5\nTP1 3200 50%\nLEV 10"
          signal := by
  obtain ⟨signal, parsed⟩ := exists_parsed
    (parse (fun _ => "hash") 1
      "SIGNAL SHORT ETH\nENTRY 3400\nSL 3500.5\nTP1 3200 50%\nLEV 10"
      "src_demo_alpha" none none) (by decide +kernel)
  exact ⟨signal, parsed, ((lineBased_iff _).2 _ _ _ _ _ signal parsed).mpr
    ⟨not_firstSplit_of_keepsRows (by decide +kernel),
      not_firstSplit_of_keepsRows (by decide +kernel),
      not_firstSplit_of_keepsRows (by decide +kernel),
      not_firstSplit_of_keepsRows (by decide +kernel),
      not_someSplit_of_keepsRows (by decide +kernel)⟩⟩

/--
A symbol on the line after its side is part of the signal, and a number on the
line after a take-profit line is its size.
-/
theorem nextLine_absorbed :
    (¬ ∀ text : String, canParse text = true →
        ∃ line ∈ textLines text, (signalRe.search line).isSome = true) ∧
    ¬ ∀ (computeHash : String → String) (signalId : UUID)
        (text sourceId : String) (messageId : Option String)
        (rawHash : Option PyString)
        (signal : NormalizedSignal),
      parse computeHash signalId text sourceId messageId rawHash =
          .ok (some signal) →
        OnOneLine text signal := by
  constructor
  · intro recognized
    have onLine :=
      recognized "SIGNAL LONG\nBTCUSDT\nTP1 66000\n50" (by decide +kernel)
    revert onLine
    decide +kernel
  · intro onOneLine
    obtain ⟨signal, parsed⟩ := exists_parsed
      (parse (fun _ => "hash") 1 "SIGNAL LONG\nBTCUSDT\nTP1 66000\n50"
        "src_demo_alpha" none none) (by decide +kernel)
    have sized :
        ((parse (fun _ => "hash") 1 "SIGNAL LONG\nBTCUSDT\nTP1 66000\n50"
            "src_demo_alpha" none none).toOption.bind id).any
          (fun signal =>
            decide (∃ level ∈ signal.takeProfits,
              level.sizePct = some 50)) = true := by
      decide +kernel
    rw [parsed] at sized
    obtain ⟨level, member, isSize⟩ := of_decide_eq_true sized
    obtain ⟨line, isLine, found, located, made⟩ :=
      (onOneLine _ _ _ _ _ _ signal parsed).takeProfits level member
    have noSize :
        ∀ line ∈ textLines "SIGNAL LONG\nBTCUSDT\nTP1 66000\n50",
          ((tpRe.search line).bind fun found =>
            ((levelOf found).toOption.bind id).bind
              TakeProfitLevel.sizePct) = none := by
      decide +kernel
    have unsized := noSize line isLine
    rw [located, Option.bind_some, made] at unsized
    cases isSize.symm.trans unsized

end GenericStructuredParser

end SafeSignalTrader
