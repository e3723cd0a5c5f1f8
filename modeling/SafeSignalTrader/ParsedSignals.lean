import Mathlib.Data.List.DropRight
import Mathlib.Algebra.Order.Field.Basic
import SafeSignalTrader.FormatReading
import SafeSignalTrader.ParserFields

/-!
# Parsed signals are well formed

Whatever the text, a signal that the parser returns has sorted take-profits
with indices and sizes in range, prices that are not negative, an entry type
that fits its entry price, and a symbol that the normalization leaves alone.
-/

namespace SafeSignalTrader

open BacktrackingRegex PythonText

namespace GenericStructuredParser

section Numerals

/-- A numeral is never negative. -/
theorem decimalOfNumeral?_nonneg
    {numeral : List Char}
    {value : Decimal}
    (converted : decimalOfNumeral? numeral = some value) :
    0 ≤ value := by
  unfold decimalOfNumeral? at converted
  dsimp only at converted
  split at converted
  · split at converted
    · cases converted
    · obtain ⟨digits, _, rfl⟩ := Option.map_eq_some_iff.mp converted
      exact Nat.cast_nonneg digits
  · split at converted
    · cases converted
    · obtain ⟨digits, _, rfl⟩ := Option.map_eq_some_iff.mp converted
      apply div_nonneg (Nat.cast_nonneg digits)
      exact pow_nonneg (by decide) _

/-- The price of a price line is never negative. -/
theorem firstPrice_nonneg
    {pattern : TextPattern}
    {text : List Char}
    {price : Decimal}
    (priced : firstPrice pattern text = some price) :
    0 ≤ price := by
  obtain ⟨found, _, converted⟩ := Option.bind_eq_some_iff.mp priced
  exact decimalOfNumeral?_nonneg converted

/-- Every level of the loop comes from a match. -/
theorem exists_levelOfMatch
    {hits : List TextMatch}
    {levels : List TakeProfitLevel}
    (collected : collectLevels hits = .ok levels) :
    ∀ level ∈ levels, ∃ found ∈ hits, LevelOfMatch found level := by
  intro level member
  obtain ⟨found, isHit, made⟩ := (mem_collectLevels_iff collected level).mp
    member
  rcases levelOf_ok made with ⟨impossible, _⟩ | ⟨_, same, isLevel⟩
  · cases impossible
  · cases same
    exact ⟨found, isHit, isLevel⟩

end Numerals

section Symbols

/-- The suffixes that a normalized symbol may have. -/
def quoteSuffixes : List String :=
  ["USDT", "USD", "USDC"]

/-- Upper case is its own upper case. -/
theorem upper_upper (char : Char) : upper (upper char) = upper char := by
  by_cases isLower : 'a' ≤ char ∧ char ≤ 'z'
  · have bounds : 97 ≤ char.toNat ∧ char.toNat ≤ 122 := isLower
    have raised : upper char = Char.ofNat (char.toNat - 32) := if_pos isLower
    have size : (upper char).toNat = char.toNat - 32 := by
      rw [raised]
      exact toNat_ofNat (by omega)
    have notLower : ¬ ('a' ≤ upper char ∧ upper char ≤ 'z') := by
      intro still
      have low : 97 ≤ (upper char).toNat := still.1
      omega
    generalize upper char = capital at size notLower
    rw [upper, if_neg notLower, if_neg (by omega), if_neg (by omega)]
  · by_cases dotless : char.toNat = 0x131
    · have raised : upper char = 'I' := by
        rw [upper, if_neg isLower, if_pos dotless]
      rw [raised]
      rfl
    · by_cases long : char.toNat = 0x17F
      · have raised : upper char = 'S' := by
          rw [upper, if_neg isLower, if_neg dotless, if_pos long]
        rw [raised]
        rfl
      · have same : upper char = char := by
          rw [upper, if_neg isLower, if_neg dotless, if_neg long]
        rw [same, same]

/-- What is stripped starts outside white space. -/
theorem strip_head (text : List Char) :
    ∀ char ∈ (strip text).head?, isSpace char = false := by
  intro char isHead
  have ahead :
      strip text <+: text.dropWhile isSpace :=
    List.rdropWhile_prefix isSpace _
  obtain ⟨rest, shape⟩ := ahead
  have dropped := List.head?_dropWhile_not isSpace text
  rw [← shape, List.head?_append, Option.mem_def.mp isHead] at dropped
  simpa using dropped

/-- What is stripped ends outside white space. -/
theorem strip_last (text : List Char) :
    ∀ char ∈ (strip text).getLast?, isSpace char = false := by
  intro char isLast
  have dropped :=
    List.head?_dropWhile_not isSpace (text.dropWhile isSpace).reverse
  rw [strip, List.getLast?_reverse] at isLast
  rw [Option.mem_def.mp isLast] at dropped
  simpa using dropped

/-- A text in capitals, without white space around it. -/
structure IsCapital (text : List Char) : Prop where
  upperCase : text.map upper = text
  starts : ∀ char ∈ text.head?, isSpace char = false
  ends : ∀ char ∈ text.getLast?, isSpace char = false

/-- Capitals are neither raised nor stripped again. -/
theorem IsCapital.strip_map_upper
    {text : List Char}
    (capital : IsCapital text) :
    strip (text.map upper) = text := by
  rw [capital.upperCase]
  exact strip_of_ends capital.starts capital.ends

/-- A raised and stripped text is in capitals. -/
theorem isCapital_strip (raw : List Char) :
    IsCapital (strip (raw.map upper)) := by
  refine ⟨?_, strip_head _, strip_last _⟩
  have inside :
      ∀ char ∈ strip (raw.map upper), ∃ original, char = upper original := by
    intro char member
    rw [strip, List.mem_reverse] at member
    have dropped := List.mem_reverse.mp
      ((List.dropWhile_sublist isSpace).subset member)
    obtain ⟨original, _, rfl⟩ :=
      List.mem_map.mp ((List.dropWhile_sublist isSpace).subset dropped)
    exact ⟨original, rfl⟩
  rw [List.map_congr_left (g := id), List.map_id]
  intro char member
  obtain ⟨original, rfl⟩ := inside char member
  exact upper_upper original

/-- Capitals before a suffix of capitals are in capitals. -/
theorem IsCapital.append
    {first second : List Char}
    (capitalFirst : IsCapital first)
    (capitalSecond : IsCapital second)
    (nonempty : second ≠ []) :
    IsCapital (first ++ second) := by
  constructor
  · rw [List.map_append, capitalFirst.upperCase, capitalSecond.upperCase]
  · intro char isHead
    cases first with
    | nil => exact capitalSecond.starts char isHead
    | cons symbol rest => exact capitalFirst.starts char isHead
  · intro char isLast
    rw [List.getLast?_append_of_ne_nil _ nonempty] at isLast
    exact capitalSecond.ends char isLast

/-- A normalized symbol has a quote suffix and is normalized as it is. -/
theorem normalizeSymbol_spec (raw : List Char) :
    (∃ suffix ∈ quoteSuffixes,
        suffix.toList <:+ (normalizeSymbol raw).toList) ∧
      normalizeSymbol (normalizeSymbol raw).toList = normalizeSymbol raw := by
  have capital := isCapital_strip raw
  have fixed :
      ∀ text, IsCapital text →
        (∃ suffix ∈ quoteSuffixes, suffix.toList <:+ text) →
          normalizeSymbol text = String.ofList text := by
    intro text capitalText hasSuffix
    obtain ⟨suffix, member, isSuffix⟩ := hasSuffix
    unfold normalizeSymbol
    dsimp only
    rw [capitalText.strip_map_upper]
    apply if_pos
    rw [List.any_eq_true]
    exact ⟨suffix, member, List.isSuffixOf_iff_suffix.mpr isSuffix⟩
  by_cases hasSuffix :
      (["USDT", "USD", "USDC"].any fun suffix =>
        suffix.toList.isSuffixOf (strip (raw.map upper))) = true
  · have shape :
        normalizeSymbol raw = String.ofList (strip (raw.map upper)) :=
      if_pos hasSuffix
    obtain ⟨suffix, member, isSuffix⟩ := List.any_eq_true.mp hasSuffix
    have found :
        ∃ suffix ∈ quoteSuffixes,
          suffix.toList <:+ strip (raw.map upper) :=
      ⟨suffix, member, List.isSuffixOf_iff_suffix.mp isSuffix⟩
    rw [shape, String.toList_ofList]
    exact ⟨found, fixed _ capital found⟩
  · have shape :
        normalizeSymbol raw =
          String.ofList (strip (raw.map upper) ++ "USDT".toList) :=
      if_neg hasSuffix
    have capitalSuffix : IsCapital "USDT".toList :=
      ⟨by decide, by simp [isSpace], by simp [isSpace]⟩
    have found :
        ∃ suffix ∈ quoteSuffixes,
          suffix.toList <:+ strip (raw.map upper) ++ "USDT".toList :=
      ⟨"USDT", List.mem_cons_self, List.suffix_append _ _⟩
    rw [shape, String.toList_ofList]
    exact ⟨found,
      fixed _ (capital.append capitalSuffix (by decide)) found⟩

end Symbols

/-- What every parsed signal satisfies, whatever its text. -/
structure WellFormed (signal : NormalizedSignal) : Prop where
  takeProfitsSorted :
    signal.takeProfits.Pairwise fun first second =>
      first.index < second.index
  indexInRange :
    ∀ level ∈ signal.takeProfits, 1 ≤ level.index ∧ level.index ≤ 5
  sizeInRange :
    ∀ level ∈ signal.takeProfits, ∀ pct, level.sizePct = some pct →
      0 < pct ∧ pct ≤ 100
  levelPrice : ∀ level ∈ signal.takeProfits, 0 ≤ level.price
  entryPrice : ∀ price, signal.entryPrice = some price → 0 ≤ price
  stopLoss : ∀ price, signal.stopLoss = some price → 0 ≤ price
  leverage :
    ∀ value, signal.leverage = some value → 1 ≤ value ∧ value ≤ 125
  entryType : signal.entryType = .limit ↔ signal.entryPrice.isSome = true
  symbolNonempty : signal.symbol ≠ ""
  symbolSuffix :
    ∃ suffix ∈ quoteSuffixes, suffix.toList <:+ signal.symbol.toList
  symbolNormalized : normalizeSymbol signal.symbol.toList = signal.symbol
  validated : validate signal = .ok signal

section Results

variable {computeHash : String → String}
variable {signalId : UUID}
variable {text sourceId : String}
variable {messageId : Option String}
variable {rawHash : Option PyString}
variable {signal : NormalizedSignal}

/-- A parsed signal carries a normalized symbol and its parser's id. -/
theorem parse_named
    (parsed :
      parse computeHash signalId text sourceId messageId rawHash =
        .ok (some signal)) :
    signal.parserId = parserId ∧
      ∃ raw, signal.symbol = normalizeSymbol raw := by
  obtain ⟨found, side, levels, leverage, hash, _, _, _, _, created⟩ :=
    parse_created parsed
  rw [NormalizedSignal.create_ok created]
  exact ⟨rfl, _, rfl⟩

/-- A parsed signal is well formed. -/
theorem wellFormed_of_parsed
    (parsed :
      parse computeHash signalId text sourceId messageId rawHash =
        .ok (some signal)) :
    WellFormed signal := by
  obtain ⟨levels, collected, takeProfits, entryPrice, entryType, stopLoss⟩ :=
    parse_spec parsed
  obtain ⟨isOwn, raw, named⟩ := parse_named parsed
  obtain ⟨hasSuffix, normalized⟩ := normalizeSymbol_spec raw
  have ordered :
      signal.takeProfits.Pairwise fun first second =>
        first.index ≤ second.index := by
    rw [takeProfits]
    exact List.pairwise_insertionSort _ levels
  have unique := List.pairwise_map.mp signal.tpIndicesUnique
  have nonempty : signal.symbol ≠ "" := by
    rw [named]
    exact normalizeSymbol_ne_empty raw
  constructor
  · exact (ordered.and unique).imp
      fun both => Nat.lt_of_le_of_ne both.1 both.2
  · exact fun level _ => level.indexInRange
  · exact fun level _ => level.pctBounds
  · intro level member
    rw [takeProfits] at member
    obtain ⟨_, _, _, priced⟩ :=
      exists_levelOfMatch collected level
        ((List.mem_insertionSort _).mp member)
    exact decimalOfNumeral?_nonneg priced
  · intro price present
    rw [entryPrice] at present
    exact firstPrice_nonneg present
  · intro price present
    rw [stopLoss] at present
    exact firstPrice_nonneg present
  · exact signal.leverageInRange
  · rw [entryType, entryPrice]
    split
    · next priced => exact iff_of_true rfl priced
    · next unpriced => exact iff_of_false (by decide) unpriced
  · exact nonempty
  · rw [named]
    exact hasSuffix
  · rw [named]
    exact normalized
  · exact validate_of_named isOwn nonempty

/-- A text that `can_parse` accepts is not left without a result. -/
theorem parse_ne_none
    (accepted : canParse text = true) :
    parse computeHash signalId text sourceId messageId rawHash ≠
      .ok none := by
  have located : (signalRe.search text.toList).isSome = true := by
    unfold canParse at accepted
    split at accepted
    · cases accepted
    · exact accepted
  obtain ⟨found, isFound⟩ := Option.isSome_iff_exists.mp located
  rw [parse, parseHashed, if_pos accepted, isFound]
  intro nothing
  obtain ⟨_, _, impossible⟩ := map_eq_ok_iff.mp nothing
  cases impossible

variable (computeHash signalId text sourceId messageId rawHash)

/--
Every parsed signal is well formed; a text that `can_parse` accepts gives such
a signal or an exception, and any other text gives nothing.
-/
theorem parsedSignals_wellFormed :
    (∀ signal,
        parse computeHash signalId text sourceId messageId rawHash =
            .ok (some signal) →
          WellFormed signal) ∧
      (canParse text = true →
        (∃ signal,
            parse computeHash signalId text sourceId messageId rawHash =
                .ok (some signal) ∧
              WellFormed signal) ∨
          ∃ raised,
            parse computeHash signalId text sourceId messageId rawHash =
              .error raised) ∧
      (parse computeHash signalId text sourceId messageId rawHash =
          .ok none ↔
        canParse text = false) := by
  refine ⟨fun signal parsed => wellFormed_of_parsed parsed, ?_, ?_⟩
  · intro accepted
    cases result :
        parse computeHash signalId text sourceId messageId rawHash with
    | error raised => exact Or.inr ⟨raised, rfl⟩
    | ok output =>
        cases output with
        | none => exact absurd result (parse_ne_none accepted)
        | some signal =>
            exact Or.inl ⟨signal, rfl, wellFormed_of_parsed result⟩
  · constructor
    · intro nothing
      rw [← Bool.not_eq_true]
      exact fun accepted => parse_ne_none accepted nothing
    · intro refused
      rw [parse, parseHashed, refused]
      rfl

end Results

end GenericStructuredParser

end SafeSignalTrader
