import SafeSignalTrader.GenericStructuredParser

/-!
# Recognised fields of a parsed signal

The price patterns accept every string of digits and points, the decimal
conversion only plain numerals.  A recognised price that is not a plain
numeral is dropped without an error; nothing else is.
-/

namespace SafeSignalTrader

open BacktrackingRegex PythonText

namespace GenericStructuredParser

/-- A parsed signal is created from what the patterns find in the text. -/
theorem parse_created
    {computeHash : String → String}
    {signalId : UUID}
    {text sourceId : String}
    {messageId : Option String}
    {rawHash : Option PyString}
    {signal : NormalizedSignal}
    (parsed :
      parse computeHash signalId text sourceId messageId rawHash =
        .ok (some signal)) :
    ∃ found side levels leverage hash,
      signalRe.search text.toList = some found ∧
        sideOf (captured found .side) = .ok side ∧
          collectLevels (tpRe.findIter text.toList) = .ok levels ∧
            leverageIn text.toList = .ok leverage ∧
              NormalizedSignal.create
                { signalId := signalId
                  sourceId := sourceId
                  parserId := parserId
                  parserVersion := parserVersion
                  symbol := normalizeSymbol (captured found .symbol)
                  side := side
                  entryType :=
                    if (firstPrice entryRe text.toList).isSome then
                      .limit
                    else
                      .market
                  entryPrice := firstPrice entryRe text.toList
                  stopLoss := firstPrice slRe text.toList
                  takeProfits :=
                    levels.insertionSort
                      fun first second => first.index ≤ second.index
                  leverage := leverage
                  rawMessageId := messageId
                  rawHash := hash } = .ok signal := by
  unfold parse parseHashed at parsed
  split at parsed
  · split at parsed
    · cases parsed
    · next found located =>
        obtain ⟨produced, matched, same⟩ := map_eq_ok_iff.mp parsed
        cases same
        simp only [parseMatched, bind_eq_ok_iff] at matched
        obtain ⟨side, isSide, levels, collected, leverage, isLeverage,
          hash, _, created, isCreated, validated⟩ := matched
        rw [validate_ok validated]
        exact ⟨found, side, levels, leverage, _, located, isSide, collected,
          isLeverage, isCreated⟩
  · cases parsed

/-- The fields `parse` sets, in terms of the matches in the text. -/
theorem parse_spec
    {computeHash : String → String}
    {signalId : UUID}
    {text sourceId : String}
    {messageId : Option String}
    {rawHash : Option PyString}
    {signal : NormalizedSignal}
    (parsed :
      parse computeHash signalId text sourceId messageId rawHash =
        .ok (some signal)) :
    ∃ levels,
      collectLevels (tpRe.findIter text.toList) = .ok levels ∧
        signal.takeProfits =
          levels.insertionSort
            (fun first second => first.index ≤ second.index) ∧
        signal.entryPrice = firstPrice entryRe text.toList ∧
        signal.entryType =
          (if (firstPrice entryRe text.toList).isSome then
            .limit
          else
            .market) ∧
        signal.stopLoss = firstPrice slRe text.toList := by
  obtain ⟨found, side, levels, leverage, hash, _, _, collected, _, created⟩ :=
    parse_created parsed
  rw [NormalizedSignal.create_ok created]
  exact ⟨levels, collected, rfl, rfl, rfl, rfl⟩

/-- Evaluating `parse` to a signal is parsing one. -/
theorem exists_parsed
    (output : Except PyException (Option NormalizedSignal))
    (evaluated : (output.toOption.bind id).isSome = true) :
    ∃ signal, output = .ok (some signal) := by
  rcases output with raised | signal
  · cases evaluated
  · obtain ⟨parsed, rfl⟩ := Option.isSome_iff_exists.mp evaluated
    exact ⟨parsed, rfl⟩

section Levels

/-- What a level says about the match it was made of. -/
def LevelOfMatch (found : TextMatch) (level : TakeProfitLevel) : Prop :=
  toInt (captured found .idx) = .ok level.index ∧
    toDecimal (captured found .price) = some level.price

/-- A match gives its level, or is skipped for its price. -/
theorem levelOf_ok
    {found : TextMatch}
    {result : Option TakeProfitLevel}
    (made : levelOf found = .ok result) :
    (result = none ∧ toDecimal (captured found .price) = none) ∨
      ∃ level, result = some level ∧ LevelOfMatch found level := by
  unfold levelOf at made
  split at made
  · cases made
  · next index converted =>
      split at made
      · next noPrice =>
          cases made
          exact Or.inl ⟨rfl, noPrice⟩
      · next price priced =>
          split at made
          · cases made
          · next level created =>
              cases made
              obtain ⟨sameIndex, samePrice, _⟩ :=
                TakeProfitLevel.create_ok created
              rw [← sameIndex] at converted
              rw [← samePrice] at priced
              exact Or.inr ⟨level, rfl, converted, priced⟩

/-- Where the loop finds the levels it collects. -/
theorem mem_collectLevels_iff
    {hits : List TextMatch}
    {levels : List TakeProfitLevel}
    (collected : collectLevels hits = .ok levels)
    (level : TakeProfitLevel) :
    level ∈ levels ↔ ∃ found ∈ hits, levelOf found = .ok (some level) := by
  induction hits generalizing levels with
  | nil =>
      cases collected
      simp
  | cons first rest inductionHypothesis =>
      rw [collectLevels] at collected
      rw [List.exists_mem_cons_iff]
      cases made : levelOf first with
      | error raised =>
          rw [made] at collected
          cases collected
      | ok read =>
          rw [made] at collected
          cases read with
          | none =>
              rw [inductionHypothesis collected]
              simp
          | some own =>
              dsimp only at collected
              split at collected
              · cases collected
              · next others collectedRest =>
                  cases collected
                  rw [List.mem_cons, inductionHypothesis collectedRest]
                  simp [eq_comm]

/-- What the loop collects from its first match and from the others. -/
theorem collectLevels_cons
    {found : TextMatch}
    {rest : List TextMatch}
    {levels : List TakeProfitLevel}
    (collected : collectLevels (found :: rest) = .ok levels) :
    (toDecimal (captured found .price) = none ∧
        collectLevels rest = .ok levels) ∨
      ∃ level others,
        LevelOfMatch found level ∧ collectLevels rest = .ok others ∧
          levels = level :: others := by
  rw [collectLevels] at collected
  split at collected
  · cases collected
  · next skipped =>
      rcases levelOf_ok skipped with ⟨_, noPrice⟩ | ⟨_, impossible, _⟩
      · exact Or.inl ⟨noPrice, collected⟩
      · cases impossible
  · next level made =>
      rcases levelOf_ok made with ⟨impossible, _⟩ | ⟨_, same, isLevel⟩
      · cases impossible
      · cases same
        split at collected
        · cases collected
        · next others collectedRest =>
            cases collected
            exact Or.inr ⟨level, others, isLevel, collectedRest, rfl⟩

/-- The loop never collects more levels than there are matches. -/
theorem collectLevels_length_le
    {hits : List TextMatch}
    {levels : List TakeProfitLevel}
    (collected : collectLevels hits = .ok levels) :
    levels.length ≤ hits.length := by
  induction hits generalizing levels with
  | nil =>
      cases collected
      exact le_refl 0
  | cons found rest inductionHypothesis =>
      rcases collectLevels_cons collected with
        ⟨_, collectedRest⟩ | ⟨level, others, _, collectedRest, rfl⟩
      · exact Nat.le_succ_of_le (inductionHypothesis collectedRest)
      · exact Nat.succ_le_succ (inductionHypothesis collectedRest)

/-- If the loop collects one level a match, every price was converted. -/
theorem priced_of_length_eq
    {hits : List TextMatch}
    {levels : List TakeProfitLevel}
    (collected : collectLevels hits = .ok levels)
    (sameLength : levels.length = hits.length) :
    ∀ found ∈ hits,
      (toDecimal (captured found .price)).isSome = true := by
  induction hits generalizing levels with
  | nil =>
      intro found member
      cases member
  | cons first rest inductionHypothesis =>
      rcases collectLevels_cons collected with
        ⟨_, collectedRest⟩ | ⟨level, others, isLevel, collectedRest, rfl⟩
      · have tooMany := collectLevels_length_le collectedRest
        rw [sameLength] at tooMany
        exact absurd tooMany (Nat.not_succ_le_self rest.length)
      · intro found member
        rcases List.mem_cons.mp member with isFirst | inRest
        · rw [isFirst, isLevel.2]
          rfl
        · exact inductionHypothesis collectedRest
            (Nat.succ.inj sameLength) found inRest

/-- If every price is converted, the loop makes one level of each match. -/
theorem forall₂_levelOfMatch
    {hits : List TextMatch}
    {levels : List TakeProfitLevel}
    (collected : collectLevels hits = .ok levels)
    (priced : ∀ found ∈ hits,
      (toDecimal (captured found .price)).isSome = true) :
    List.Forall₂ LevelOfMatch hits levels := by
  induction hits generalizing levels with
  | nil =>
      cases collected
      exact .nil
  | cons first rest inductionHypothesis =>
      rcases collectLevels_cons collected with
        ⟨noPrice, _⟩ | ⟨level, others, isLevel, collectedRest, rfl⟩
      · have hasPrice := priced first List.mem_cons_self
        rw [noPrice] at hasPrice
        cases hasPrice
      · exact .cons isLevel (inductionHypothesis collectedRest
          fun found member => priced found (List.mem_cons_of_mem _ member))

end Levels

section Prices

/-- A captured price consists of digits and points. -/
theorem captured_price_symbols
    {pattern : TextPattern}
    (kind :
      Pattern.Captures .price (isNumeralChar · = true) pattern)
    {cursor : Cursor Char}
    {found : TextMatch}
    (member : found ∈ pattern.run cursor) :
    ∀ char ∈ captured found .price, isNumeralChar char = true := by
  unfold captured
  cases captures : found.group .price with
  | none =>
      intro char impossible
      cases impossible
  | some price =>
      exact Pattern.run_captures kind member
        (Match.mem_groups_of_group captures)

/-- A literal word captures nothing. -/
theorem word_captures
    (name : CaptureName)
    (allowed : Char → Prop)
    (letters : String) :
    Pattern.Captures name allowed (word letters) := by
  apply Pattern.captures_sequence
  intro pattern member
  obtain ⟨letter, _, rfl⟩ := List.mem_map.mp member
  trivial

/-- A numeral consumes digits and points. -/
theorem numeral_consumes :
    Pattern.Consumes (isNumeralChar · = true) numeral :=
  ⟨fun _ accepted => accepted, fun _ accepted => accepted⟩

/-- The price of a price line consists of digits and points. -/
theorem priceLine_captures (keyword : String) :
    Pattern.Captures .price (isNumeralChar · = true)
      (priceLine keyword) := by
  apply Pattern.captures_sequence
  simp only [List.forall_mem_cons, List.not_mem_nil, IsEmpty.forall_iff,
    implies_true, and_true]
  exact ⟨trivial, trivial, word_captures _ _ keyword, ⟨trivial, trivial⟩,
    ⟨fun _ => numeral_consumes, trivial, trivial⟩, trivial, trivial⟩

/-- The price of a take-profit line consists of digits and points. -/
theorem tpRe_captures :
    Pattern.Captures .price (isNumeralChar · = true) tpRe := by
  have percentage :
      Pattern.Captures .price (isNumeralChar · = true)
        (.opt (.sequence
          [someSpaces, .group .pct numeral, .opt (.one (· == '%'))])) := by
    apply Pattern.captures_sequence
    simp only [List.forall_mem_cons, List.not_mem_nil, IsEmpty.forall_iff,
      implies_true, and_true]
    exact ⟨⟨trivial, trivial⟩,
      ⟨nofun, trivial, trivial⟩, trivial⟩
  apply Pattern.captures_sequence
  simp only [List.forall_mem_cons, List.not_mem_nil, IsEmpty.forall_iff,
    implies_true, and_true]
  exact ⟨trivial, trivial, word_captures _ _ "TP",
    ⟨nofun, trivial⟩, ⟨trivial, trivial⟩,
    ⟨fun _ => numeral_consumes, trivial, trivial⟩, percentage,
    trivial, trivial⟩

/-- A price line has a price exactly if its numeral is plain. -/
theorem firstPrice_isSome_iff
    {keyword : String}
    {text : List Char}
    {found : TextMatch}
    (matched : (priceLine keyword).search text = some found) :
    (firstPrice (priceLine keyword) text).isSome = true ↔
      IsPlainNumeral (captured found .price) := by
  obtain ⟨cursor, member⟩ := Pattern.mem_run_of_search matched
  rw [firstPrice, matched, Option.bind_some, toDecimal]
  exact decimalOfNumeral?_isSome_iff
    (captured_price_symbols (priceLine_captures keyword) member)

/-- Every matched price line has a price exactly if its numeral is plain. -/
theorem firstPrice_kept_iff
    {keyword : String}
    {text : List Char} :
    (((priceLine keyword).search text).isSome = true →
        (firstPrice (priceLine keyword) text).isSome = true) ↔
      ∀ found ∈ (priceLine keyword).search text,
        IsPlainNumeral (captured found .price) := by
  constructor
  · intro kept found matched
    apply (firstPrice_isSome_iff matched).mp
    apply kept
    rw [matched]
    rfl
  · intro plain matched
    obtain ⟨found, located⟩ := Option.isSome_iff_exists.mp matched
    exact (firstPrice_isSome_iff located).mpr (plain found located)

/-- Every match has a level exactly if the prices of all are plain numerals. -/
theorem levels_kept_iff
    {text : List Char}
    {levels : List TakeProfitLevel}
    (collected : collectLevels (tpRe.findIter text) = .ok levels) :
    (∃ oneEach,
        List.Forall₂ LevelOfMatch (tpRe.findIter text) oneEach ∧
          oneEach.Perm levels) ↔
      ∀ found ∈ tpRe.findIter text,
        IsPlainNumeral (captured found .price) := by
  have pricedIff :
      ∀ found ∈ tpRe.findIter text,
        (toDecimal (captured found .price)).isSome = true ↔
          IsPlainNumeral (captured found .price) := by
    intro found member
    obtain ⟨cursor, ran⟩ := Pattern.mem_run_of_findIter member
    exact decimalOfNumeral?_isSome_iff
      (captured_price_symbols tpRe_captures ran)
  constructor
  · intro kept found member
    obtain ⟨oneEach, paired, permuted⟩ := kept
    have sameLength : levels.length = (tpRe.findIter text).length := by
      rw [paired.length_eq, permuted.length_eq]
    exact (pricedIff found member).mp
      (priced_of_length_eq collected sameLength found member)
  · intro plain
    exact ⟨levels,
      forall₂_levelOfMatch collected fun found member =>
        (pricedIff found member).mpr (plain found member),
      List.Perm.refl levels⟩

end Prices

/-- No field recognised in the text is missing from the signal. -/
structure KeepsRecognised
    (text : List Char)
    (signal : NormalizedSignal) : Prop where
  entry :
    (entryRe.search text).isSome = true →
      signal.entryType = .limit ∧ signal.entryPrice.isSome = true
  stop :
    (slRe.search text).isSome = true → signal.stopLoss.isSome = true
  levels :
    ∃ levels,
      List.Forall₂ LevelOfMatch (tpRe.findIter text) levels ∧
        levels.Perm signal.takeProfits

/-- Every price recognised in the text is a plain numeral. -/
structure RecognisedPlain (text : List Char) : Prop where
  entry :
    ∀ found ∈ entryRe.search text, IsPlainNumeral (captured found .price)
  stop :
    ∀ found ∈ slRe.search text, IsPlainNumeral (captured found .price)
  levels :
    ∀ found ∈ tpRe.findIter text, IsPlainNumeral (captured found .price)

/--
A parsed signal keeps every recognised field exactly if the prices of the
first entry line, the first stop line and every take-profit line of its text
are plain numerals.
-/
theorem recognisedFieldsKept
    (computeHash : String → String)
    (signalId : UUID)
    (text sourceId : String)
    (messageId : Option String)
    (rawHash : Option PyString)
    (signal : NormalizedSignal)
    (parsed :
      parse computeHash signalId text sourceId messageId rawHash =
        .ok (some signal)) :
    KeepsRecognised text.toList signal ↔ RecognisedPlain text.toList := by
  obtain ⟨levels, collected, takeProfits, entryPrice, entryType, stopLoss⟩ :=
    parse_spec parsed
  have sorted : levels.Perm signal.takeProfits := by
    rw [takeProfits]
    exact (List.perm_insertionSort _ levels).symm
  constructor
  · intro kept
    constructor
    · apply firstPrice_kept_iff.mp
      intro matched
      have priced := (kept.entry matched).2
      rw [entryPrice] at priced
      exact priced
    · apply firstPrice_kept_iff.mp
      intro matched
      have priced := kept.stop matched
      rw [stopLoss] at priced
      exact priced
    · obtain ⟨oneEach, paired, permuted⟩ := kept.levels
      exact (levels_kept_iff collected).mp
        ⟨oneEach, paired, permuted.trans sorted.symm⟩
  · intro plain
    constructor
    · intro matched
      have priced := firstPrice_kept_iff.mpr plain.entry matched
      exact ⟨by rw [entryType]; exact if_pos priced,
        by rw [entryPrice]; exact priced⟩
    · intro matched
      rw [stopLoss]
      exact firstPrice_kept_iff.mpr plain.stop matched
    · obtain ⟨oneEach, paired, permuted⟩ :=
        (levels_kept_iff collected).mpr plain.levels
      exact ⟨oneEach, paired, permuted.trans sorted⟩

/-- A message with all recognised fields in plain numerals. -/
theorem recognisedFieldsKept_golden :
    ∃ signal,
      parse (fun _ => "hash") 1
          "SIGNAL SHORT ETH\nENTRY 3400\nSL 3500.5\nTP1 3200 50%"
          "src_demo_alpha" none none = .ok (some signal) ∧
        KeepsRecognised
          "SIGNAL SHORT ETH\nENTRY 3400\nSL 3500.5\nTP1 3200 50%".toList
          signal := by
  obtain ⟨signal, parsed⟩ := exists_parsed
    (parse (fun _ => "hash") 1
      "SIGNAL SHORT ETH\nENTRY 3400\nSL 3500.5\nTP1 3200 50%"
      "src_demo_alpha" none none) (by decide +kernel)
  exact ⟨signal, parsed, (recognisedFieldsKept _ _ _ _ _ _ signal parsed).mpr
    ⟨by decide +kernel, by decide +kernel, by decide +kernel⟩⟩

/--
An entry line with a version-like number matches, but the parsed signal is a
market entry.
-/
theorem recognised_entry_dropped :
    ¬ ∀ (computeHash : String → String) (signalId : UUID)
        (text sourceId : String) (messageId : Option String)
        (rawHash : Option PyString)
        (signal : NormalizedSignal),
      parse computeHash signalId text sourceId messageId rawHash =
          .ok (some signal) →
        KeepsRecognised text.toList signal := by
  intro kept
  obtain ⟨signal, parsed⟩ := exists_parsed
    (parse (fun _ => "hash") 1 "SIGNAL LONG BTCUSDT\nENTRY 1.2.3"
      "src_demo_alpha" none none) (by decide +kernel)
  have priced := ((kept _ _ _ _ _ _ signal parsed).entry
    (by decide +kernel)).2
  obtain ⟨_, _, _, entryPrice, _⟩ := parse_spec parsed
  rw [entryPrice] at priced
  revert priced
  decide +kernel

end GenericStructuredParser

end SafeSignalTrader
