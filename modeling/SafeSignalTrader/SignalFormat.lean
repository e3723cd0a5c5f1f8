import SafeSignalTrader.DomainModels

/-!
# The documented signal format

The line-based format that `parsers/generic_structured.py` documents, stated
independently of the parser: what a line says and every way to write it.  A
message is a list of rows in any order, with blanks around and between the
tokens, blank rows, and keywords in any letter case.
-/

namespace SafeSignalTrader

namespace SignalFormat

section Tokens

/-- A blank within a row. -/
def isBlank (char : Char) : Bool :=
  char == ' ' || char == '\t'

/-- Blanks around the tokens of a row, maybe none. -/
structure Spacing where
  text : List Char
  blank : ∀ char ∈ text, isBlank char = true

/-- Blanks between two tokens. -/
structure Gap extends Spacing where
  nonempty : text ≠ []

/-- A word written in any letter case. -/
structure Spelling (word : String) where
  text : List Char
  spells : text.map Char.toUpper = word.toList

/-- A string of decimal digits. -/
structure DigitText where
  text : List Char
  nonempty : text ≠ []
  digits : ∀ char ∈ text, char.isDigit = true

/-- The value of ASCII digits, most significant first. -/
def digitsValue (digits : List Char) : Nat :=
  digits.foldl (fun value char => value * 10 + (char.toNat - 48)) 0

/-- A digit string with an optional fraction. -/
structure NumberText where
  whole : DigitText
  fraction : Option DigitText

namespace NumberText

/-- The characters of a number. -/
def text (number : NumberText) : List Char :=
  match number.fraction with
  | none => number.whole.text
  | some fraction => number.whole.text ++ '.' :: fraction.text

/-- The value of a number. -/
def value (number : NumberText) : Decimal :=
  match number.fraction with
  | none => (digitsValue number.whole.text : Decimal)
  | some fraction =>
      (digitsValue number.whole.text : Decimal) +
        (digitsValue fraction.text : Decimal) / 10 ^ fraction.text.length

end NumberText

/-- A size in percent, written with or without a percent sign. -/
structure SizeText where
  gap : Gap
  number : NumberText
  percentSign : Bool
  inRange : 0 < number.value ∧ number.value ≤ 100

/-- A leverage between 1 and 125, maybe with leading zeros. -/
structure LeverageText extends DigitText where
  inRange : 1 ≤ digitsValue text ∧ digitsValue text ≤ 125

/-- A symbol of ASCII letters and digits. -/
structure SymbolText where
  text : List Char
  nonempty : text ≠ []
  alphanumeric : ∀ char ∈ text, char.isAlphanum = true

/-- The symbol in capitals, with `USDT` unless it already ends in a dollar. -/
def SymbolText.normalized (symbol : SymbolText) : String :=
  let capitals := symbol.text.map Char.toUpper
  if ["USDT", "USD", "USDC"].any
      fun suffix => suffix.toList.isSuffixOf capitals then
    String.ofList capitals
  else
    String.ofList (capitals ++ "USDT".toList)

/-- The four side words. -/
inductive SideWord where
  | long
  | short
  | buy
  | sell
  deriving Repr, DecidableEq

/-- The letters of a side word. -/
def SideWord.word : SideWord → String
  | .long => "LONG"
  | .short => "SHORT"
  | .buy => "BUY"
  | .sell => "SELL"

/-- The trade direction a side word stands for. -/
def SideWord.side : SideWord → Side
  | .long => .long
  | .short => .short
  | .buy => .long
  | .sell => .short

/-- The number of a take-profit line. -/
structure LevelIndex where
  value : Nat
  inRange : 1 ≤ value ∧ value ≤ 5
  deriving Repr

/-- The digit of a take-profit line. -/
def LevelIndex.char (index : LevelIndex) : Char :=
  Char.ofNat (48 + index.value)

end Tokens

section Lines

/-- A line of the format, with the way it is written. -/
inductive SignalLine where
  | signal
      (keyword : Spelling "SIGNAL")
      (gap : Gap)
      (side : SideWord)
      (sideText : Spelling side.word)
      (symbolGap : Gap)
      (symbol : SymbolText)
  | entry (keyword : Spelling "ENTRY") (gap : Gap) (price : NumberText)
  | stopLoss (keyword : Spelling "SL") (gap : Gap) (price : NumberText)
  | takeProfit
      (keyword : Spelling "TP")
      (index : LevelIndex)
      (gap : Gap)
      (price : NumberText)
      (size : Option SizeText)
  | leverage
      (keyword : Spelling "LEV")
      (ending : Option (Spelling "ERAGE"))
      (gap : Gap)
      (value : LeverageText)

/-- What a line is about. -/
inductive LineKind where
  | signal
  | entry
  | stopLoss
  | takeProfit (index : Nat)
  | leverage
  deriving Repr, DecidableEq

/-- The characters of a size, up to its percent sign. -/
def SizeText.text (size : SizeText) : List Char :=
  size.gap.text ++ (size.number.text ++ if size.percentSign then ['%'] else [])

namespace SignalLine

/-- What a line is about. -/
def kind : SignalLine → LineKind
  | signal .. => .signal
  | entry .. => .entry
  | stopLoss .. => .stopLoss
  | takeProfit _ index _ _ _ => .takeProfit index.value
  | leverage .. => .leverage

/-- The characters of a line, without the blanks around it. -/
def text : SignalLine → List Char
  | signal keyword gap _ sideText symbolGap symbol =>
      keyword.text ++
        (gap.text ++ (sideText.text ++ (symbolGap.text ++ symbol.text)))
  | entry keyword gap price => keyword.text ++ (gap.text ++ price.text)
  | stopLoss keyword gap price => keyword.text ++ (gap.text ++ price.text)
  | takeProfit keyword index gap price size =>
      keyword.text ++ (index.char :: (gap.text ++
        (price.text ++ (size.map SizeText.text).getD [])))
  | leverage keyword ending gap value =>
      keyword.text ++
        ((ending.map Spelling.text).getD [] ++ (gap.text ++ value.text))

/-- The price an entry line says. -/
def entryPrice? : SignalLine → Option Decimal
  | entry _ _ price => some price.value
  | _ => none

/-- The price a stop-loss line says. -/
def stopPrice? : SignalLine → Option Decimal
  | stopLoss _ _ price => some price.value
  | _ => none

/-- The digits of a leverage line. -/
def leverageText? : SignalLine → Option LeverageText
  | leverage _ _ _ value => some value
  | _ => none

/-- The leverage a leverage line says. -/
def leverage? (line : SignalLine) : Option Nat :=
  line.leverageText?.map fun value => digitsValue value.text

/-- The index, price and size a take-profit line says. -/
def level? : SignalLine → Option (Nat × Decimal × Option Decimal)
  | takeProfit _ index _ price size =>
      some (index.value, price.value, size.map fun size => size.number.value)
  | _ => none

/-- The side and the normalized symbol a signal line says. -/
def signal? : SignalLine → Option (Side × String)
  | signal _ _ side _ _ symbol => some (side.side, symbol.normalized)
  | _ => none

end SignalLine

/-- A row of a message: blanks, or a line with blanks around it. -/
inductive Row where
  | blank (spacing : Spacing)
  | line (before : Spacing) (content : SignalLine) (after : Spacing)

namespace Row

/-- The characters of a row. -/
def text : Row → List Char
  | blank spacing => spacing.text
  | line before content after =>
      before.text ++ (content.text ++ after.text)

/-- The line of a row. -/
def line? : Row → Option SignalLine
  | blank _ => none
  | line _ content _ => some content

end Row

/-- A message with one signal line and no line twice. -/
structure Message where
  rows : List Row
  signalled : ∃ line ∈ rows.filterMap Row.line?, line.kind = .signal
  distinct : ((rows.filterMap Row.line?).map SignalLine.kind).Nodup

namespace Message

/-- The lines of a message in order. -/
def lines (message : Message) : List SignalLine :=
  message.rows.filterMap Row.line?

/-- The text of a message: its rows, separated by newlines. -/
def text (message : Message) : String :=
  String.ofList (['\n'].intercalate (message.rows.map Row.text))

/-- The leverage of a message, if it has one, has at most `limit` digits. -/
def LeverageWithin (message : Message) (limit : Nat) : Prop :=
  ∀ value, message.lines.findSome? SignalLine.leverageText? = some value →
    value.text.length ≤ limit

end Message

/-- A signal says what a message says, and nothing more. -/
structure Conveys (message : Message) (signal : NormalizedSignal) : Prop where
  sideAndSymbol :
    message.lines.findSome? SignalLine.signal? =
      some (signal.side, signal.symbol)
  entryPrice :
    signal.entryPrice = message.lines.findSome? SignalLine.entryPrice?
  entryType :
    signal.entryType = if signal.entryPrice.isSome then .limit else .market
  stopLoss : signal.stopLoss = message.lines.findSome? SignalLine.stopPrice?
  leverage : signal.leverage = message.lines.findSome? SignalLine.leverage?
  takeProfits :
    (signal.takeProfits.map fun level =>
        (level.index, level.price, level.sizePct)).Perm
      (message.lines.filterMap SignalLine.level?)
  takeProfitsSorted :
    signal.takeProfits.Pairwise fun first second =>
      first.index < second.index

end Lines

end SignalFormat

end SafeSignalTrader
