import Mathlib.Data.List.Sort
import SafeSignalTrader.BacktrackingRegex
import SafeSignalTrader.ParserRegistry
import SafeSignalTrader.PythonText

/-!
# The generic structured parser

`GenericStructuredParser` of `parsers/generic_structured.py`: its five
patterns, the conversions of what they capture, and `parse` with its error
paths.  The text hash and the signal id drawn by `uuid4` are parameters.  The
patterns are matched on texts without surrogates; as a plug-in the parser
reads a surrogate as a character that no pattern names.
-/

namespace SafeSignalTrader

open BacktrackingRegex PythonText

/-- The named groups of the patterns. -/
inductive CaptureName where
  | side
  | symbol
  | price
  | idx
  | pct
  | lev
  deriving Repr, DecidableEq

/-- A pattern over the characters of a text. -/
abbrev TextPattern :=
  Pattern CaptureName Char

/-- A match in a text. -/
abbrev TextMatch :=
  Match CaptureName Char

namespace GenericStructuredParser

section Patterns

/-- The line break the `MULTILINE` anchors know. -/
def isLineBreak (char : Char) : Bool :=
  char == '\n'

/-- `^`. -/
def lineStart : TextPattern :=
  .lineStart isLineBreak

/-- `$`. -/
def lineEnd : TextPattern :=
  .lineEnd isLineBreak

/-- `\s*`. -/
def spaces : TextPattern :=
  .many isSpace

/-- `\s+`. -/
def someSpaces : TextPattern :=
  .oneOrMore isSpace

/-- `[\d.]+`. -/
def numeral : TextPattern :=
  .oneOrMore isNumeralChar

/-- A literal word in any letter case. -/
def word (letters : String) : TextPattern :=
  .sequence (letters.toList.map fun letter => .one (foldsTo letter))

/-- `_SIGNAL_RE`. -/
def signalRe : TextPattern :=
  .sequence
    [lineStart, spaces, word "SIGNAL", someSpaces,
      .group .side
        (.alt (word "LONG")
          (.alt (word "SHORT") (.alt (word "BUY") (word "SELL")))),
      someSpaces, .group .symbol (.oneOrMore isAlnumIgnoreCase),
      spaces, lineEnd]

/-- The common shape of `_ENTRY_RE` and `_SL_RE`. -/
def priceLine (keyword : String) : TextPattern :=
  .sequence
    [lineStart, spaces, word keyword, someSpaces, .group .price numeral,
      spaces, lineEnd]

/-- `_ENTRY_RE`. -/
def entryRe : TextPattern :=
  priceLine "ENTRY"

/-- `_SL_RE`. -/
def slRe : TextPattern :=
  priceLine "SL"

/-- `_TP_RE`. -/
def tpRe : TextPattern :=
  .sequence
    [lineStart, spaces, word "TP",
      .group .idx (.one fun char => '1' ≤ char && char ≤ '5'),
      someSpaces, .group .price numeral,
      .opt (.sequence
        [someSpaces, .group .pct numeral, .opt (.one (· == '%'))]),
      spaces, lineEnd]

/-- `_LEV_RE`. -/
def levRe : TextPattern :=
  .sequence
    [lineStart, spaces, word "LEV", .opt (word "ERAGE"), someSpaces,
      .group .lev (.oneOrMore isDigit), spaces, lineEnd]

end Patterns

/-- What a group captured; empty if it took no part in the match. -/
def captured (found : TextMatch) (name : CaptureName) : List Char :=
  (found.group name).getD []

/-- `_to_decimal`, for the numerals the patterns capture. -/
def toDecimal (numeral : List Char) : Option Decimal :=
  decimalOfNumeral? numeral

/-- `int(...)` of captured digits. -/
def toInt (digits : List Char) : Except PyException Nat :=
  if maxIntDigits < digits.length then
    .error (.valueError
      ("Exceeds the limit (4300 digits) for integer string conversion: " ++
        "value has " ++ toString digits.length ++ " digits; use " ++
        "sys.set_int_max_str_digits() to increase the limit"))
  else
    match digitsValue? digits with
    | some value => .ok value
    | none =>
        .error (.valueError ("invalid literal for int() with base 10: '" ++
          String.ofList digits ++ "'"))

/-- `_SIDE_MAP[...]`. -/
def sideOf (raw : List Char) : Except PyException Side :=
  match String.ofList (raw.map upper) with
  | "LONG" => .ok .long
  | "BUY" => .ok .long
  | "SHORT" => .ok .short
  | "SELL" => .ok .short
  | key => .error (.keyError key)

/-- `_normalize_symbol`. -/
def normalizeSymbol (raw : List Char) : String :=
  let symbol := strip (raw.map upper)
  if ["USDT", "USD", "USDC"].any
      fun suffix => suffix.toList.isSuffixOf symbol then
    String.ofList symbol
  else
    String.ofList (symbol ++ "USDT".toList)

/-- `can_parse`. -/
def canParse (text : String) : Bool :=
  if text = "" ∨ (strip text.toList).length < 8 then
    false
  else
    (signalRe.search text.toList).isSome

/-- The price of the first line a price pattern matches. -/
def firstPrice (pattern : TextPattern) (text : List Char) : Option Decimal :=
  (pattern.search text).bind fun found => toDecimal (captured found .price)

/-- The level of one take-profit match; `none` skips the match. -/
def levelOf (found : TextMatch) :
    Except PyException (Option TakeProfitLevel) :=
  match toInt (captured found .idx) with
  | .error raised => .error raised
  | .ok index =>
      match toDecimal (captured found .price) with
      | none => .ok none
      | some price =>
          match TakeProfitLevel.create index price
              ((found.group .pct).bind toDecimal) with
          | .error raised => .error raised
          | .ok level => .ok (some level)

/-- The take-profit loop of `parse`. -/
def collectLevels :
    List TextMatch → Except PyException (List TakeProfitLevel)
  | [] => .ok []
  | found :: rest =>
      match levelOf found with
      | .error raised => .error raised
      | .ok none => collectLevels rest
      | .ok (some level) =>
          match collectLevels rest with
          | .error raised => .error raised
          | .ok levels => .ok (level :: levels)

/-- The leverage of the first leverage line. -/
def leverageIn (text : List Char) : Except PyException (Option Nat) :=
  match levRe.search text with
  | none => .ok none
  | some found => (toInt (captured found .lev)).map some

/-- The parser id. -/
def parserId : String :=
  "generic_structured"

/-- The parser version. -/
def parserVersion : String :=
  "1.0.0"

/--
`validate`; the check of the side cannot fail, and that of the leverage
repeats the field constraint of the model.
-/
def validate (signal : NormalizedSignal) :
    Except PyException NormalizedSignal :=
  if signal.parserId ≠ parserId then
    .error (.valueError ("parser_id mismatch: expected " ++ parserId))
  else if signal.symbol = "" then
    .error (.valueError "symbol required")
  else if signal.leverage.any fun leverage => leverage < 1 || 125 < leverage
      then
    .error (.valueError "leverage out of range 1..125")
  else
    .ok signal

/-- A signal that passes `validate` comes back unchanged. -/
theorem validate_ok
    {signal validated : NormalizedSignal}
    (accepted : validate signal = .ok validated) :
    validated = signal := by
  unfold validate at accepted
  split at accepted
  · cases accepted
  · split at accepted
    · cases accepted
    · split at accepted
      · cases accepted
      · cases accepted
        rfl

/-- `raw_hash or _compute_raw_hash(text)`. -/
def rawHashOr
    (rawHash : Option PyString)
    (hashed : Except PyException PyString) : Except PyException PyString :=
  match rawHash with
  | some hash => if hash ≠ "" then .ok hash else hashed
  | none => hashed

/-- With the hash of the text at hand there is one to carry. -/
theorem rawHashOr_ok (rawHash : Option PyString) (computed : PyString) :
    ∃ hash, rawHashOr rawHash (.ok computed) = .ok hash := by
  unfold rawHashOr
  split
  · split <;> exact ⟨_, rfl⟩
  · exact ⟨_, rfl⟩

/-- `parse`, once `can_parse` has accepted the text. -/
def parseMatched
    (hashed : Except PyException PyString)
    (signalId : UUID)
    (signalMatch : TextMatch)
    (text sourceId : String)
    (messageId : Option String)
    (rawHash : Option PyString) :
    Except PyException NormalizedSignal := do
  let side ← sideOf (captured signalMatch .side)
  let symbol := normalizeSymbol (captured signalMatch .symbol)
  let entryPrice := firstPrice entryRe text.toList
  let stopLoss := firstPrice slRe text.toList
  let levels ← collectLevels (tpRe.findIter text.toList)
  let takeProfits :=
    levels.insertionSort fun first second => first.index ≤ second.index
  let leverage ← leverageIn text.toList
  let hash ← rawHashOr rawHash hashed
  let signal ← NormalizedSignal.create
    { signalId := signalId
      sourceId := sourceId
      parserId := parserId
      parserVersion := parserVersion
      symbol := symbol
      side := side
      entryType := if entryPrice.isSome then .limit else .market
      entryPrice := entryPrice
      stopLoss := stopLoss
      takeProfits := takeProfits
      leverage := leverage
      rawMessageId := messageId
      rawHash := some hash }
  validate signal

/-- `parse`, with what hashing the text comes to. -/
def parseHashed
    (hashed : Except PyException PyString)
    (signalId : UUID)
    (text sourceId : String)
    (messageId : Option String)
    (rawHash : Option PyString) :
    Except PyException (Option NormalizedSignal) :=
  if canParse text then
    match signalRe.search text.toList with
    | none => .ok none
    | some signalMatch =>
        (parseMatched hashed signalId signalMatch text sourceId messageId
          rawHash).map some
  else
    .ok none

/-- `parse` of a text without surrogates, which can be hashed. -/
def parse
    (computeHash : String → String)
    (signalId : UUID)
    (text sourceId : String)
    (messageId : Option String)
    (rawHash : Option PyString) :
    Except PyException (Option NormalizedSignal) :=
  parseHashed (.ok (computeHash text)) signalId text sourceId messageId
    rawHash

/-- `_compute_raw_hash`. -/
def computeRawHash
    (computeHash : String → String)
    (text : PyString) : Except PyException PyString :=
  hashText computeHash text

/-- The parser as a plug-in. -/
def plugIn (computeHash : String → String) (signalId : UUID) :
    SignalParser NormalizedSignal where
  parserId := parserId
  parserVersion := parserVersion
  canParse := fun text => .ok (.ok (canParse text.replaced))
  parse := fun text sourceId messageId rawHash =>
    parseHashed (computeRawHash computeHash text) signalId text.replaced
      sourceId messageId rawHash
  validate := fun signal => (validate signal).map some

/-- On a text without surrogates the plug-in parses the text. -/
theorem plugIn_parse_ofString
    (computeHash : String → String)
    (signalId : UUID)
    (text sourceId : String)
    (messageId : Option String)
    (rawHash : Option PyString) :
    (plugIn computeHash signalId).parse text sourceId messageId rawHash =
      parse computeHash signalId text sourceId messageId rawHash := by
  simp only [plugIn, parse, computeRawHash, hashText,
    PyString.encode?_ofString, PyString.replaced_ofString]

/-- `build_default_registry`. -/
def buildDefaultRegistry
    (computeHash : String → String)
    (signalId : UUID) : ParserRegistry NormalizedSignal :=
  ParserRegistry.empty.register (plugIn computeHash signalId)

/-- The only parser of the default registry is the generic one. -/
theorem get_buildDefaultRegistry
    {computeHash : String → String}
    {signalId : UUID}
    {parserId : PyString}
    {version : Option PyString}
    {parser : SignalParser NormalizedSignal}
    (registered :
      (buildDefaultRegistry computeHash signalId).get parserId version =
        some parser) :
    parser = plugIn computeHash signalId := by
  have stored (key : PyString) :
      (buildDefaultRegistry computeHash signalId).parsers.get? key =
          some parser →
        parser = plugIn computeHash signalId := by
    intro found
    simp only [buildDefaultRegistry, ParserRegistry.register,
      ParserRegistry.empty, OrderedDict.get?_set] at found
    split at found
    · exact (Option.some.inj found).symm
    · split at found
      · exact (Option.some.inj found).symm
      · cases found
  unfold ParserRegistry.get at registered
  split at registered
  · split at registered
    · exact stored _ registered
    · exact stored _ registered
  · exact stored _ registered

end GenericStructuredParser

end SafeSignalTrader
