import Mathlib.Tactic.Ring
import SafeSignalTrader.ParserReading

/-!
# The parser reads the documented format

Every message of the documented format is parsed to the signal it says, in
whatever order and spacing it is written, as long as Python converts the
digits of its leverage at all.
-/

namespace SafeSignalTrader

open BacktrackingRegex PythonText SignalFormat

namespace GenericStructuredParser

section Rows

theorem isSpace_of_blank
    (spacing : Spacing) :
    ∀ char ∈ spacing.text, isSpace char = true :=
  fun char member => (blank_space (spacing.blank char member)).1

/-- White space, then lines with the white space behind each. -/
structure LinesOf
    (text : List Char)
    (lines : List SignalLine)
    (gap : List Char)
    (items : List (SignalLine × List Char)) : Prop where
  shape : text = gap ++ Pattern.itemsText SignalLine.text items
  gapInside : ∀ char ∈ gap, isSpace char = true
  separated : Pattern.Separated lineAlphabet items
  same : items.map Prod.fst = lines

/-- A row before others: its blanks join the white space of the next line. -/
theorem LinesOf.cons
    {text gap : List Char}
    {lines : List SignalLine}
    {items : List (SignalLine × List Char)}
    (others : LinesOf text lines gap items)
    (row : Row) :
    ∃ gap items,
      LinesOf (row.text ++ '\n' :: text) (row.line?.toList ++ lines) gap
        items := by
  have newline :
      ∀ spacing : Spacing, ∀ char ∈ spacing.text ++ '\n' :: gap,
        isSpace char = true := by
    intro spacing char member
    rcases List.mem_append.mp member with inSpacing | inRest
    · exact isSpace_of_blank spacing char inSpacing
    · rcases List.mem_cons.mp inRest with isBreak | inGap
      · subst isBreak
        decide
      · exact others.gapInside char inGap
  cases row with
  | blank spacing =>
      refine ⟨spacing.text ++ '\n' :: gap, items, ?_, newline spacing,
        others.separated, others.same⟩
      rw [others.shape, Row.text, List.append_assoc, List.cons_append]
  | line before content behind =>
      refine ⟨before.text, (content, behind.text ++ '\n' :: gap) :: items,
        ?_, isSpace_of_blank before,
        ⟨newline behind, Or.inr ⟨'\n', by simp, rfl⟩, others.separated⟩, ?_⟩
      · rw [others.shape, Row.text, Pattern.itemsText]
        simp only [List.append_assoc, List.cons_append]
      · rw [List.map_cons, others.same]
        rfl

/-- The last row. -/
theorem exists_linesOf_row (row : Row) :
    ∃ gap items, LinesOf row.text row.line?.toList gap items := by
  cases row with
  | blank spacing =>
      exact ⟨spacing.text, [], (List.append_nil _).symm,
        isSpace_of_blank spacing, trivial, rfl⟩
  | line before content behind =>
      refine ⟨before.text, [(content, behind.text)], ?_,
        isSpace_of_blank before,
        ⟨isSpace_of_blank behind, Or.inl rfl, trivial⟩, rfl⟩
      rw [Row.text, Pattern.itemsText, Pattern.itemsText, List.append_nil]

/-- A message is white space and lines, separated by line breaks. -/
theorem exists_linesOf (rows : List Row) :
    ∃ gap items,
      LinesOf (['\n'].intercalate (rows.map Row.text))
        (rows.filterMap Row.line?) gap items := by
  induction rows with
  | nil => exact ⟨[], [], rfl, by simp, trivial, rfl⟩
  | cons row rest inductionHypothesis =>
      have lines :
          (row :: rest).filterMap Row.line? =
            row.line?.toList ++ rest.filterMap Row.line? := by
        cases row <;> rfl
      rw [lines]
      cases rest with
      | nil =>
          rw [List.filterMap_nil, List.append_nil]
          have last := exists_linesOf_row row
          simpa [List.intercalate] using last
      | cons next others =>
          obtain ⟨gap, items, linesOf⟩ := inductionHypothesis
          have joined := linesOf.cons row
          simpa [List.intercalate] using joined

end Rows

section Values

/-- The value of ASCII digits is what `int` and `Decimal` read. -/
theorem digitsValue?_of_isDigit
    {digits : List Char}
    (allDigits : ∀ char ∈ digits, char.isDigit = true) :
    digitsValue? digits = some (digitsValue digits) := by
  have fromAny :
      ∀ value : Nat,
        (digits.foldlM (fun value char => do
          let digit ← digitValue? char
          return value * 10 + digit) value : Option Nat) =
            some (digits.foldl
              (fun value char => value * 10 + (char.toNat - 48)) value) := by
    induction digits with
    | nil =>
        intro value
        rfl
    | cons char rest inductionHypothesis =>
        obtain ⟨digit, restDigits⟩ := List.forall_mem_cons.mp allDigits
        intro value
        rw [List.foldlM_cons, digitValue?_of_isDigit digit]
        exact inductionHypothesis restDigits _
  exact fromAny 0

/-- The value of digits behind others. -/
theorem digitsValue_append (first second : List Char) :
    digitsValue (first ++ second) =
      digitsValue first * 10 ^ second.length + digitsValue second := by
  have fromAny :
      ∀ value : Nat,
        second.foldl (fun value char => value * 10 + (char.toNat - 48))
            value =
          value * 10 ^ second.length + digitsValue second := by
    unfold digitsValue
    induction second with
    | nil => simp
    | cons char rest inductionHypothesis =>
        intro value
        rw [List.foldl_cons, List.foldl_cons,
          inductionHypothesis (value * 10 + (char.toNat - 48)),
          inductionHypothesis (0 * 10 + (char.toNat - 48)),
          List.length_cons]
        ring
  rw [digitsValue, List.foldl_append]
  exact fromAny _

theorem point_notMem (digits : DigitText) : '.' ∉ digits.text := by
  intro member
  exact absurd (digits.digits '.' member) (by decide)

/-- A price or a percentage is read as its value. -/
theorem toDecimal_number (number : NumberText) :
    toDecimal number.text = some number.value := by
  have noPoint :
      ∀ char ∈ number.whole.text, decide (char ≠ '.') = true := by
    intro char member
    rw [decide_eq_true_eq]
    exact ne_of_mem_of_not_mem member (point_notMem number.whole)
  unfold toDecimal decimalOfNumeral? NumberText.text NumberText.value
  cases number.fraction with
  | none =>
      dsimp only
      rw [List.dropWhile_eq_nil_iff.mpr noPoint,
        List.takeWhile_eq_self_iff.mpr noPoint]
      dsimp only
      rw [if_neg number.whole.nonempty,
        digitsValue?_of_isDigit number.whole.digits]
      rfl
  | some fraction =>
      have wholePart :
          (number.whole.text ++ '.' :: fraction.text).takeWhile (· ≠ '.') =
            number.whole.text := by
        rw [List.takeWhile_append_of_pos noPoint]
        simp
      have pointPart :
          (number.whole.text ++ '.' :: fraction.text).dropWhile (· ≠ '.') =
            '.' :: fraction.text := by
        rw [List.dropWhile_append_of_pos noPoint]
        simp
      have allDigits :
          ∀ char ∈ number.whole.text ++ fraction.text,
            char.isDigit = true := by
        intro char member
        rcases List.mem_append.mp member with inWhole | inFraction
        · exact number.whole.digits char inWhole
        · exact fraction.digits char inFraction
      have power : (10 : ℚ) ^ fraction.text.length ≠ 0 :=
        pow_ne_zero _ (by decide)
      dsimp only
      rw [wholePart, pointPart]
      dsimp only
      rw [if_neg fun empty => number.whole.nonempty empty.1,
        digitsValue?_of_isDigit allDigits, digitsValue_append,
        Option.map_some]
      push_cast
      rw [add_div, mul_div_assoc, div_self power, mul_one]

/-- Digits are read as their value, unless there are too many of them. -/
theorem toInt_of_isDigit
    {digits : List Char}
    (allDigits : ∀ char ∈ digits, char.isDigit = true)
    (convertible : digits.length ≤ maxIntDigits) :
    toInt digits = .ok (digitsValue digits) := by
  rw [toInt, if_neg (Nat.not_lt.mpr convertible),
    digitsValue?_of_isDigit allDigits]

/-- The number of a take-profit line is read as its value. -/
theorem toInt_index (index : LevelIndex) :
    toInt [index.char] = .ok index.value := by
  obtain ⟨digit, _, _, code⟩ := index.digit
  have convertible : [index.char].length ≤ maxIntDigits :=
    show 1 ≤ 4300 by decide
  rw [toInt_of_isDigit (by simpa using digit) convertible, digitsValue, List.foldl_cons, List.foldl_nil, code]
  simp

/-- On ASCII letters and digits both upper cases agree. -/
theorem map_upper
    {text : List Char}
    (alphanumeric : ∀ char ∈ text, char.isAlphanum = true) :
    text.map upper = text.map Char.toUpper :=
  List.map_congr_left fun char member =>
    upper_of_isAlphanum (alphanumeric char member)

/-- A side word is read as its side. -/
theorem sideOf_spelling
    (side : SideWord)
    (spelling : Spelling side.word) :
    sideOf spelling.text = .ok side.side := by
  have alphanumeric :
      ∀ char ∈ spelling.text, char.isAlphanum = true := by
    intro char member
    rw [Char.isAlphanum, spelling.alpha side.letters.2 char member,
      Bool.true_or]
  rw [sideOf, map_upper alphanumeric, spelling.spells]
  cases side <;> rfl

/-- A text with ends outside white space is not stripped. -/
theorem strip_of_ends
    {text : List Char}
    (starts : ∀ char ∈ text.head?, isSpace char = false)
    (ends : ∀ char ∈ text.getLast?, isSpace char = false) :
    strip text = text := by
  have kept :
      ∀ other : List Char,
        (∀ char ∈ other.head?, isSpace char = false) →
          other.dropWhile isSpace = other := by
    intro other startsOther
    cases other with
    | nil => rfl
    | cons char rest =>
        rw [List.dropWhile_cons, startsOther char rfl]
        rfl
  have endsReverse :
      ∀ char ∈ text.reverse.head?, isSpace char = false := by
    rw [List.head?_reverse]
    exact ends
  rw [strip, kept text starts, kept text.reverse endsReverse,
    List.reverse_reverse]

/-- A text without white space is not stripped. -/
theorem strip_of_solid
    {text : List Char}
    (solid : ∀ char ∈ text, isSpace char = false) :
    strip text = text :=
  strip_of_ends
    (fun char isHead => solid char (List.mem_of_mem_head? isHead))
    (fun char isLast => solid char (List.mem_of_getLast? isLast))

/-- A symbol is normalized as documented. -/
theorem normalizeSymbol_symbol (symbol : SymbolText) :
    normalizeSymbol symbol.text = symbol.normalized := by
  have solid :
      ∀ char ∈ symbol.text.map Char.toUpper, isSpace char = false := by
    intro char member
    obtain ⟨original, isOriginal, rfl⟩ := List.mem_map.mp member
    exact isSpace_of_isAlphanum
      (isAlphanum_toUpper (symbol.alphanumeric original isOriginal))
  rw [normalizeSymbol, map_upper symbol.alphanumeric, strip_of_solid solid]
  rfl

end Values

section Messages

/-- A pattern finds the lines of its kind in a message. -/
theorem Finds.findIter_message
    {pattern : TextPattern}
    {reading : Reading}
    (finds : Finds pattern reading)
    (message : Message) :
    (pattern.findIter message.text.toList).map Match.groups =
      message.lines.filterMap reading := by
  obtain ⟨gap, items, linesOf⟩ := exists_linesOf message.rows
  have found := finds gap items linesOf.gapInside linesOf.separated
  rw [← linesOf.shape] at found
  rw [Message.text, String.toList_ofList, found, Message.lines,
    ← linesOf.same, List.filterMap_map]
  rfl

/-- A search gives the first line of its kind in a message. -/
theorem Finds.search_message
    {pattern : TextPattern}
    {reading : Reading}
    (finds : Finds pattern reading)
    (message : Message) :
    (pattern.search message.text.toList).map Match.groups =
      message.lines.findSome? reading := by
  rw [Pattern.search_eq_head?, ← List.head?_map,
    finds.findIter_message message, List.head?_filterMap]

/-- What the captures of a match hold for a group. -/
def capturedIn
    (groups : List (CaptureName × List Char))
    (name : CaptureName) : List Char :=
  ((groups.find? fun entry => entry.1 = name).map Prod.snd).getD []

/--
A search finds a line exactly if the message says something of its kind, and
then what is read from the captures is what the line says.
-/
theorem Finds.search_said
    {pattern : TextPattern}
    {reading : Reading}
    {Said Result : Type}
    {said? : SignalLine → Option Said}
    {ofCaptures : List (CaptureName × List Char) → Result}
    {ofSaid : Said → Result}
    (finds : Finds pattern reading)
    (same : ∀ line,
      (reading line).map ofCaptures = (said? line).map ofSaid)
    (message : Message) :
    (pattern.search message.text.toList = none ∧
        message.lines.findSome? said? = none) ∨
      ∃ found said,
        pattern.search message.text.toList = some found ∧
          message.lines.findSome? said? = some said ∧
          ofCaptures found.groups = ofSaid said := by
  have converted :
      ((pattern.search message.text.toList).map Match.groups).map
          ofCaptures =
        (message.lines.findSome? said?).map ofSaid := by
    rw [finds.search_message message, List.map_findSome?,
      List.map_findSome?]
    exact congrArg (message.lines.findSome? ·) (funext same)
  cases located : pattern.search message.text.toList with
  | none =>
      rw [located] at converted
      exact Or.inl ⟨rfl, Option.map_eq_none_iff.mp converted.symm⟩
  | some found =>
      rw [located] at converted
      obtain ⟨said, isSaid, agrees⟩ :=
        Option.map_eq_some_iff.mp converted.symm
      exact Or.inr ⟨found, said, rfl, isSaid, agrees.symm⟩

/-- The price of a price line is read as its value. -/
theorem firstPrice_message
    {pattern : TextPattern}
    {reading : Reading}
    {price? : SignalLine → Option Decimal}
    (finds : Finds pattern reading)
    (converts : ∀ line,
      (reading line).map
          (fun groups => toDecimal (capturedIn groups .price)) =
        (price? line).map some)
    (message : Message) :
    firstPrice pattern message.text.toList =
      message.lines.findSome? price? := by
  unfold firstPrice
  rcases finds.search_said converts message with
    ⟨unmatched, unsaid⟩ | ⟨found, price, located, said, same⟩
  · rw [unmatched, unsaid]
    rfl
  · rw [located, said]
    exact same

theorem entryPrice_message (message : Message) :
    firstPrice entryRe message.text.toList =
      message.lines.findSome? SignalLine.entryPrice? := by
  apply firstPrice_message entryRe_finds
  intro line
  cases line with
  | entry keyword gap price =>
      exact congrArg some (toDecimal_number price)
  | signal => rfl
  | stopLoss => rfl
  | takeProfit => rfl
  | leverage => rfl

theorem stopLoss_message (message : Message) :
    firstPrice slRe message.text.toList =
      message.lines.findSome? SignalLine.stopPrice? := by
  apply firstPrice_message slRe_finds
  intro line
  cases line with
  | stopLoss keyword gap price =>
      exact congrArg some (toDecimal_number price)
  | signal => rfl
  | entry => rfl
  | takeProfit => rfl
  | leverage => rfl

theorem signal_message (message : Message) :
    ∃ found side symbol,
      signalRe.search message.text.toList = some found ∧
        sideOf (captured found .side) = .ok side ∧
        normalizeSymbol (captured found .symbol) = symbol ∧
        message.lines.findSome? SignalLine.signal? = some (side, symbol) := by
  have converts :
      ∀ line, (signalReading line).map
          (fun groups => (sideOf (capturedIn groups .side),
            normalizeSymbol (capturedIn groups .symbol))) =
        (SignalLine.signal? line).map
          (fun said : Side × String => (.ok said.1, said.2)) := by
    intro line
    cases line with
    | signal keyword gap side sideText symbolGap symbol =>
        have sameSide := sideOf_spelling side sideText
        have sameSymbol := normalizeSymbol_symbol symbol
        exact congrArg some (Prod.ext sameSide sameSymbol)
    | entry => rfl
    | stopLoss => rfl
    | takeProfit => rfl
    | leverage => rfl
  rcases signalRe_finds.search_said converts message with
    ⟨_, unsaid⟩ | ⟨found, ⟨side, symbol⟩, located, said, same⟩
  · obtain ⟨line, member, isSignal⟩ := message.signalled
    have silent := List.findSome?_eq_none_iff.mp unsaid line member
    cases line with
    | signal => cases silent
    | entry => cases isSignal
    | stopLoss => cases isSignal
    | takeProfit => cases isSignal
    | leverage => cases isSignal
  · exact ⟨found, side, symbol, located, congrArg Prod.fst same,
      congrArg Prod.snd same, said⟩

theorem leverage_message (message : Message) :
    leverageIn message.text.toList =
      match message.lines.findSome? SignalLine.leverageText? with
      | none => .ok none
      | some value => (toInt value.text).map some := by
  have converts :
      ∀ line, (levReading line).map
          (fun groups => toInt (capturedIn groups .lev)) =
        (SignalLine.leverageText? line).map
          (fun value => toInt value.text) := by
    intro line
    cases line <;> rfl
  unfold leverageIn
  rcases levRe_finds.search_said converts message with
    ⟨unmatched, unsaid⟩ | ⟨found, value, located, said, same⟩
  · rw [unmatched, unsaid]
  · rw [located, said]
    exact congrArg (Except.map some) same

/-- What a level says. -/
def saidBy (level : TakeProfitLevel) : Nat × Decimal × Option Decimal :=
  (level.index, level.price, level.sizePct)

/-- A take-profit match gives the level of its line. -/
theorem levelOf_takeProfit
    {found : TextMatch}
    (index : LevelIndex)
    (price : NumberText)
    (size : Option SizeText)
    (captures : found.groups =
      (.idx, [index.char]) :: (.price, price.text) :: sizeGroups size) :
    ∃ level, levelOf found = .ok (some level) ∧
      saidBy level = (index.value, price.value,
        size.map fun size => size.number.value) := by
  have isIndex : captured found .idx = [index.char] := by
    rw [captured, Match.group, captures]
    rfl
  have isPrice : captured found .price = price.text := by
    rw [captured, Match.group, captures]
    rfl
  have isSize :
      (found.group .pct).bind toDecimal =
        size.map fun size => size.number.value := by
    rw [Match.group, captures]
    cases size with
    | none => rfl
    | some size => exact toDecimal_number size.number
  have pctBounds :
      ∀ pct, (size.map fun size => size.number.value) = some pct →
        0 < pct ∧ pct ≤ 100 := by
    intro pct present
    cases size with
    | none => cases present
    | some size =>
        cases present
        exact size.inRange
  obtain ⟨level, created⟩ :=
    @TakeProfitLevel.exists_create index.value price.value _
      index.inRange pctBounds
  obtain ⟨sameIndex, samePrice, sameSize⟩ :=
    TakeProfitLevel.create_ok created
  refine ⟨level, ?_, by rw [saidBy, sameIndex, samePrice, sameSize]⟩
  rw [levelOf, isIndex, toInt_index]
  dsimp only
  rw [isPrice, toDecimal_number]
  dsimp only
  rw [isSize, created]

/-- The loop makes one level of every take-profit line. -/
theorem collectLevels_lines
    {hits : List TextMatch}
    {lines : List SignalLine}
    (found : hits.map Match.groups = lines.filterMap tpReading) :
    ∃ levels, collectLevels hits = .ok levels ∧
      levels.map saidBy = lines.filterMap SignalLine.level? := by
  induction lines generalizing hits with
  | nil =>
      rw [List.filterMap_nil, List.map_eq_nil_iff] at found
      subst found
      exact ⟨[], rfl, rfl⟩
  | cons line lines inductionHypothesis =>
      cases line with
      | takeProfit keyword index gap price size =>
          rw [List.filterMap_cons, tpReading] at found
          obtain ⟨first, rest, rfl, captures, others⟩ :=
            List.map_eq_cons_iff.mp found
          obtain ⟨level, made, said⟩ :=
            levelOf_takeProfit index price size captures
          obtain ⟨levels, collected, saidOthers⟩ :=
            inductionHypothesis others
          refine ⟨level :: levels, ?_, ?_⟩
          · rw [collectLevels, made, collected]
          · rw [List.map_cons, said, saidOthers]
            rfl
      | signal => exact inductionHypothesis found
      | entry => exact inductionHypothesis found
      | stopLoss => exact inductionHypothesis found
      | leverage => exact inductionHypothesis found

end Messages

section Length

/-- How many characters of a text are no white space. -/
def solidCount (text : List Char) : Nat :=
  text.countP fun char => !isSpace char

theorem solidCount_append (first second : List Char) :
    solidCount (first ++ second) = solidCount first + solidCount second :=
  List.countP_append

theorem solidCount_of_solid
    {text : List Char}
    (solid : ∀ char ∈ text, isSpace char = false) :
    solidCount text = text.length := by
  apply List.countP_eq_length.mpr
  intro char member
  rw [solid char member]
  rfl

/-- Only white space is stripped. -/
theorem solidCount_strip (text : List Char) :
    solidCount (strip text) = solidCount text := by
  have dropped :
      ∀ other : List Char,
        solidCount (other.dropWhile isSpace) = solidCount other := by
    intro other
    unfold solidCount
    induction other with
    | nil => rfl
    | cons char rest inductionHypothesis =>
        cases space : isSpace char with
        | true =>
            rw [List.dropWhile_cons_of_pos space, inductionHypothesis,
              List.countP_cons_of_neg (by simp [space])]
        | false =>
            rw [List.dropWhile_cons_of_neg (by simp [space])]
  have reversed :
      ∀ other : List Char, solidCount other.reverse = solidCount other :=
    fun _ => List.countP_reverse
  rw [strip, reversed, dropped, reversed, dropped]

/-- A signal line is long enough for a message. -/
theorem solidCount_signalLine
    {line : SignalLine}
    (isSignal : line.kind = .signal) :
    8 ≤ solidCount line.text := by
  cases line with
  | signal keyword gap side sideText symbolGap symbol =>
      have keywordLength := keyword.length_text
      have sideLength := sideText.length_text
      have symbolLength := List.length_pos_of_ne_nil symbol.nonempty
      have sideBound : 3 ≤ side.word.toList.length := by
        cases side <;> decide
      have keywordBound : "SIGNAL".toList.length = 6 := rfl
      rw [SignalLine.text, solidCount_append, solidCount_append,
        solidCount_append, solidCount_append,
        solidCount_of_solid (keyword.solid (by decide)),
        solidCount_of_solid (sideText.solid side.letters.2)]
      omega
  | entry => cases isSignal
  | stopLoss => cases isSignal
  | takeProfit => cases isSignal
  | leverage => cases isSignal

/-- A text of lines has the characters of each of them. -/
theorem solidCount_itemsText
    {items : List (SignalLine × List Char)}
    {line : SignalLine}
    (member : line ∈ items.map Prod.fst) :
    solidCount line.text ≤
      solidCount (Pattern.itemsText SignalLine.text items) := by
  induction items with
  | nil => cases member
  | cons entry others inductionHypothesis =>
      rw [Pattern.itemsText, solidCount_append, solidCount_append]
      rcases List.mem_cons.mp member with isFirst | inOthers
      · rw [isFirst]
        omega
      · have bound := inductionHypothesis inOthers
        omega

/-- A message is accepted by `can_parse`. -/
theorem canParse_message (message : Message) :
    canParse message.text = true := by
  obtain ⟨found, _, _, located, _⟩ := signal_message message
  obtain ⟨gap, items, linesOf⟩ := exists_linesOf message.rows
  obtain ⟨line, member, isSignal⟩ := message.signalled
  have isText :
      message.text.toList =
        gap ++ Pattern.itemsText SignalLine.text items := by
    rw [← linesOf.shape, Message.text, String.toList_ofList]
  have long : 8 ≤ (strip message.text.toList).length := by
    calc
      8 ≤ solidCount line.text := solidCount_signalLine isSignal
      _ ≤ solidCount (Pattern.itemsText SignalLine.text items) := by
          apply solidCount_itemsText
          rw [linesOf.same]
          exact member
      _ ≤ solidCount message.text.toList := by
          rw [isText, solidCount_append]
          exact Nat.le_add_left _ _
      _ = solidCount (strip message.text.toList) :=
          (solidCount_strip _).symm
      _ ≤ (strip message.text.toList).length := List.countP_le_length
  have nonempty : message.text ≠ "" := by
    intro empty
    rw [empty] at long
    exact absurd long (by decide)
  rw [canParse, if_neg (not_or.mpr ⟨nonempty, Nat.not_lt.mpr long⟩),
    located]
  rfl

end Length

section Results

instance levelOrder_total :
    Std.Total fun first second : TakeProfitLevel =>
      first.index ≤ second.index :=
  ⟨fun first second => Nat.le_total first.index second.index⟩

instance levelOrder_trans :
    IsTrans TakeProfitLevel fun first second =>
      first.index ≤ second.index :=
  ⟨fun _ _ _ => Nat.le_trans⟩

/-- The indices of the take-profit lines of a message are distinct. -/
theorem indices_distinct (message : Message) :
    ((message.lines.filterMap SignalLine.level?).map Prod.fst).Nodup := by
  let indexOf : LineKind → Option Nat
    | .takeProfit index => some index
    | _ => none
  have sameIndices :
      (message.lines.filterMap SignalLine.level?).map Prod.fst =
        (message.lines.map SignalLine.kind).filterMap indexOf := by
    rw [List.map_filterMap, List.filterMap_map]
    apply List.filterMap_congr
    intro line _
    cases line <;> rfl
  rw [sameIndices]
  apply message.distinct.filterMap
  intro first second index isFirst isSecond
  cases first <;> cases isFirst
  cases second <;> cases isSecond
  rfl

/-- The levels of a message, sorted. -/
theorem levels_message (message : Message) :
    ∃ levels, collectLevels (tpRe.findIter message.text.toList) = .ok levels ∧
      ∀ sorted,
        sorted = levels.insertionSort
            (fun first second => first.index ≤ second.index) →
          (sorted.map saidBy).Perm
              (message.lines.filterMap SignalLine.level?) ∧
            (sorted.map TakeProfitLevel.index).Nodup ∧
            sorted.Pairwise fun first second =>
              first.index < second.index := by
  obtain ⟨levels, collected, said⟩ :=
    collectLevels_lines (tpRe_finds.findIter_message message)
  refine ⟨levels, collected, ?_⟩
  intro sorted isSorted
  have permuted : sorted.Perm levels := by
    rw [isSorted]
    exact List.perm_insertionSort _ levels
  have distinct := indices_distinct message
  rw [← said, List.map_map] at distinct
  have unique : (sorted.map TakeProfitLevel.index).Nodup :=
    (permuted.map TakeProfitLevel.index).nodup_iff.mpr distinct
  have ordered :
      sorted.Pairwise fun first second => first.index ≤ second.index := by
    rw [isSorted]
    exact List.pairwise_insertionSort _ levels
  refine ⟨said ▸ permuted.map saidBy, unique, ?_⟩
  exact (ordered.and (List.pairwise_map.mp unique)).imp
    fun both => Nat.lt_of_le_of_ne both.1 both.2

/-- A normalized symbol is never empty. -/
theorem normalizeSymbol_ne_empty (raw : List Char) :
    normalizeSymbol raw ≠ "" := by
  unfold normalizeSymbol
  dsimp only
  split
  · next hasSuffix =>
      intro empty
      have noText : strip (raw.map upper) = [] :=
        String.ofList_eq_empty_iff.mp empty
      rw [noText] at hasSuffix
      exact absurd hasSuffix (by decide)
  · intro empty
    have noText := String.ofList_eq_empty_iff.mp empty
    exact absurd (List.append_eq_nil_iff.mp noText).2 (by decide)

/-- The checks of `validate` are met by a signal of this parser. -/
theorem validate_of_named
    {signal : NormalizedSignal}
    (isOwn : signal.parserId = parserId)
    (named : signal.symbol ≠ "") :
    validate signal = .ok signal := by
  have inRange :
      (signal.leverage.any fun leverage =>
        leverage < 1 || 125 < leverage) = false := by
    cases present : signal.leverage with
    | none => rfl
    | some leverage =>
        have bounds := signal.leverageInRange leverage present
        simp only [Option.any_some, Bool.or_eq_false_iff,
          decide_eq_false_iff_not]
        omega
  rw [validate, if_neg (not_not.mpr isOwn), if_neg named, inRange]
  rfl

/-- Once every part is read, a signal is made of the parts. -/
theorem parseMatched_ok
    (computeHash : String → String)
    (signalId : UUID)
    {signalMatch : TextMatch}
    {text : String}
    (sourceId : String)
    (messageId : Option String)
    (rawHash : Option PyString)
    {side : Side}
    {levels : List TakeProfitLevel}
    {leverage : Option Nat}
    (sideRead : sideOf (captured signalMatch .side) = .ok side)
    (collected : collectLevels (tpRe.findIter text.toList) = .ok levels)
    (leverageRead : leverageIn text.toList = .ok leverage)
    (inRange : ∀ value, leverage = some value → 1 ≤ value ∧ value ≤ 125)
    (unique :
      ((levels.insertionSort
        fun first second => first.index ≤ second.index).map
          TakeProfitLevel.index).Nodup) :
    ∃ signal,
      parseMatched (.ok (computeHash text)) signalId signalMatch text
          sourceId messageId rawHash = .ok signal ∧
        signal.side = side ∧
        signal.symbol = normalizeSymbol (captured signalMatch .symbol) ∧
        signal.entryPrice = firstPrice entryRe text.toList ∧
        signal.entryType =
          (if (firstPrice entryRe text.toList).isSome then
            .limit
          else
            .market) ∧
        signal.stopLoss = firstPrice slRe text.toList ∧
        signal.takeProfits =
          levels.insertionSort
            (fun first second => first.index ≤ second.index) ∧
        signal.leverage = leverage := by
  obtain ⟨hash, carried⟩ := rawHashOr_ok rawHash (computeHash text)
  simp only [parseMatched, sideRead, collected, leverageRead, carried, bind,
    Except.bind]
  split
  · next raised failed =>
      exact absurd failed
        (NormalizedSignal.create_ne_error inRange unique raised)
  · next signal created =>
      have fields := NormalizedSignal.create_ok created
      refine ⟨signal, validate_of_named ?_ ?_, ?_⟩
      · rw [fields]
      · rw [fields]
        exact normalizeSymbol_ne_empty _
      · rw [fields]
        exact ⟨rfl, rfl, rfl, rfl, rfl, rfl, rfl⟩

variable (computeHash : String → String)
variable (signalId : UUID)
variable (sourceId : String)
variable (messageId : Option String)
variable (rawHash : Option PyString)

/-- A message with a leverage that Python converts is parsed correctly. -/
theorem parse_within
    {message : Message}
    (within : message.LeverageWithin maxIntDigits) :
    ∃ signal,
      parse computeHash signalId message.text sourceId messageId rawHash =
          .ok (some signal) ∧
        Conveys message signal := by
  obtain ⟨found, side, symbol, located, sideRead, symbolRead, said⟩ :=
    signal_message message
  obtain ⟨levels, collected, sorting⟩ := levels_message message
  obtain ⟨permuted, unique, sorted⟩ := sorting _ rfl
  have leverageRead :
      leverageIn message.text.toList =
        .ok (message.lines.findSome? SignalLine.leverage?) := by
    have isValue :
        message.lines.findSome? SignalLine.leverage? =
          (message.lines.findSome? SignalLine.leverageText?).map
            fun value => digitsValue value.text := by
      rw [List.map_findSome?]
      rfl
    rw [leverage_message, isValue]
    cases written : message.lines.findSome? SignalLine.leverageText? with
    | none => rfl
    | some value =>
        dsimp only
        rw [toInt_of_isDigit value.digits (within value written)]
        rfl
  have inRange :
      ∀ value, message.lines.findSome? SignalLine.leverage? = some value →
        1 ≤ value ∧ value ≤ 125 := by
    intro value present
    obtain ⟨line, _, isLeverage⟩ := List.exists_of_findSome?_eq_some present
    obtain ⟨written, _, rfl⟩ := Option.map_eq_some_iff.mp isLeverage
    exact written.inRange
  obtain ⟨signal, parsed, sameSide, sameSymbol, sameEntry, sameType,
      sameStop, sameLevels, sameLeverage⟩ :=
    parseMatched_ok computeHash signalId sourceId messageId rawHash
      sideRead collected leverageRead inRange unique
  refine ⟨signal, ?_, ?_⟩
  · rw [parse, parseHashed, if_pos (canParse_message message), located]
    dsimp only
    rw [parsed]
    rfl
  · constructor
    · rw [said, sameSide, sameSymbol, symbolRead]
    · rw [sameEntry, entryPrice_message]
    · rw [sameType, sameEntry]
    · rw [sameStop, stopLoss_message]
    · exact sameLeverage
    · rw [sameLevels]
      exact permuted
    · rw [sameLevels]
      exact sorted

/-- A message with a longer leverage is refused by the digit limit. -/
theorem parse_beyond
    {message : Message}
    (beyond : ¬ message.LeverageWithin maxIntDigits) :
    ∃ raised,
      parse computeHash signalId message.text sourceId messageId rawHash =
        .error raised := by
  obtain ⟨found, side, symbol, located, sideRead, _⟩ :=
    signal_message message
  obtain ⟨levels, collected, _⟩ := levels_message message
  unfold Message.LeverageWithin at beyond
  push Not at beyond
  obtain ⟨value, written, tooLong⟩ := beyond
  have leverageRaises :
      ∃ raised, leverageIn message.text.toList = .error raised := by
    rw [leverage_message, written]
    dsimp only
    rw [toInt, if_pos tooLong]
    exact ⟨_, rfl⟩
  obtain ⟨raised, leverageRead⟩ := leverageRaises
  refine ⟨raised, ?_⟩
  rw [parse, parseHashed, if_pos (canParse_message message), located]
  dsimp only
  simp only [parseMatched, sideRead, collected, leverageRead, bind,
    Except.bind]
  rfl

/--
A message of the documented format is parsed to the signal it says exactly if
its leverage, if it has one, is written in as many digits as Python converts.
-/
theorem readsDocumentedFormat
    (message : Message) :
    (∃ signal,
      parse computeHash signalId message.text sourceId messageId rawHash =
          .ok (some signal) ∧
        Conveys message signal) ↔
      message.LeverageWithin maxIntDigits := by
  constructor
  · intro conveyed
    obtain ⟨signal, parsed, _⟩ := conveyed
    by_contra beyond
    obtain ⟨raised, refused⟩ :=
      parse_beyond computeHash signalId sourceId messageId rawHash beyond
    rw [parsed] at refused
    cases refused
  · intro within
    exact parse_within computeHash signalId sourceId messageId rawHash within

/-- No blanks. -/
def noBlanks : Spacing where
  text := []
  blank := by simp

/-- A space. -/
def oneSpace : Gap where
  text := [' ']
  blank := by simp [isBlank]
  nonempty := by simp

/-- The leverage 5 behind 4300 zeros. -/
def paddedLeverage : LeverageText where
  text := List.replicate 4300 '0' ++ ['5']
  nonempty := List.append_ne_nil_of_right_ne_nil _ (List.cons_ne_nil _ _)
  digits := by
    intro char member
    rcases List.mem_append.mp member with isZero | isLast
    · rw [List.eq_of_mem_replicate isZero]
      rfl
    · rw [List.mem_singleton.mp isLast]
      rfl
  inRange := by
    have zeros :
        ∀ count, digitsValue (List.replicate count '0') = 0 := by
      intro count
      unfold digitsValue
      induction count with
      | zero => rfl
      | succ count inductionHypothesis => exact inductionHypothesis
    rw [digitsValue_append, zeros]
    decide

/-- A signal for BTCUSDT with the padded leverage. -/
def paddedMessage : Message where
  rows :=
    [.line noBlanks
      (.signal ⟨"SIGNAL".toList, by decide⟩ oneSpace .long
        ⟨"LONG".toList, by decide⟩ oneSpace
        ⟨"BTCUSDT".toList, by decide, List.all_eq_true.mp (by decide)⟩)
      noBlanks,
     .line noBlanks
      (.leverage ⟨"LEV".toList, by decide⟩ none oneSpace paddedLeverage)
      noBlanks]
  signalled := ⟨_, List.mem_cons_self, rfl⟩
  distinct := by decide

/-- The leverage 5 behind 4300 zeros is in range but not parsed. -/
theorem paddedLeverage_refused :
    ¬ ∀ (computeHash : String → String) (signalId : UUID)
        (sourceId : String) (messageId : Option String)
        (rawHash : Option PyString)
        (message : Message),
      ∃ signal,
        parse computeHash signalId message.text sourceId messageId rawHash =
            .ok (some signal) ∧
          Conveys message signal := by
  intro reads
  obtain ⟨signal, parsed, _⟩ :=
    reads (fun _ => "hash") 1 "src_demo_alpha" none none paddedMessage
  have beyond : ¬ paddedMessage.LeverageWithin maxIntDigits := by
    intro within
    have length := within paddedLeverage rfl
    rw [paddedLeverage, List.length_append, List.length_replicate] at length
    exact absurd length (by decide)
  obtain ⟨raised, refused⟩ :=
    parse_beyond (fun _ => "hash") 1 "src_demo_alpha" none none beyond
  rw [parsed] at refused
  cases refused

end Results

end GenericStructuredParser

end SafeSignalTrader
