import SafeSignalTrader.PositionalNumerals
import SafeSignalTrader.PythonText
import SafeSignalTrader.TextRemoval

/-!
# Hexadecimal literals

`int(text, 16)`: white space around the literal, a sign, the marker `0x`,
single underscores between digits, and decimal digits of any script.
-/

namespace HexLiterals

open PositionalNumerals
open TextRemoval

/-- The ASCII character that `int` reads for a character. -/
def asciiOf (char : Char) : Char :=
  if char.toNat < 127 then
    char
  else if PythonText.isSpace char then
    ' '
  else
    match PythonText.digitValue? char with
    | some digit => Nat.digitChar digit
    | none => '?'

/-- The white space that `int` skips. -/
def isAsciiSpace (char : Char) : Bool :=
  char == ' ' || (9 ≤ char.toNat && char.toNat ≤ 13)

/-- The value of a hexadecimal digit. -/
def hexDigit? (char : Char) : Option Nat :=
  if '0' ≤ char ∧ char ≤ '9' then
    some (char.toNat - 48)
  else if 'a' ≤ char ∧ char ≤ 'f' then
    some (char.toNat - 87)
  else if 'A' ≤ char ∧ char ≤ 'F' then
    some (char.toNat - 55)
  else
    none

/-- The value of digits with single underscores between them. -/
def readDigits : (afterDigit : Bool) → (value : Nat) → List Char → Option Nat
  | afterDigit, value, [] => if afterDigit then some value else none
  | afterDigit, value, char :: rest =>
      match hexDigit? char with
      | some digit => readDigits true (value * 16 + digit) rest
      | none =>
          if char = '_' ∧ afterDigit = true then
            readDigits false value rest
          else
            none

/-- Whether a literal is negative, and the literal without its sign. -/
def splitSign (text : List Char) : Bool × List Char :=
  if text.head? = some '+' then
    (false, text.tail)
  else if text.head? = some '-' then
    (true, text.tail)
  else
    (false, text)

/-- A literal without its marker and one underscore behind that. -/
def skipMarker (text : List Char) : List Char :=
  if text.take 2 = ['0', 'x'] ∨ text.take 2 = ['0', 'X'] then
    if (text.drop 2).head? = some '_' then
      text.drop 3
    else
      text.drop 2
  else
    text

/-- `int(text, 16)`, or nothing where it raises. -/
def intBase16? (text : List Char) : Option Int :=
  let signed := splitSign (stripEnds isAsciiSpace (text.map asciiOf))
  (readDigits false 0 (skipMarker signed.2)).map fun value =>
    if signed.1 then -(value : Int) else value

/-- A character is a hexadecimal digit as the numerals have them. -/
def IsDigit (char : Char) : Prop :=
  ∃ digit < 16, char = Nat.digitChar digit

/-- A digit is read as the number it stands for. -/
theorem hexDigit?_digitChar
    {digit : Nat}
    (small : digit < 16) :
    hexDigit? (Nat.digitChar digit) = some digit := by
  have checked :
      ∀ digit < 16, hexDigit? (Nat.digitChar digit) = some digit := by
    decide
  exact checked digit small

/-- A digit is read as it stands, and it is neither space nor underscore. -/
theorem plain_of_isDigit
    {char : Char}
    (isDigit : IsDigit char) :
    asciiOf char = char ∧ isAsciiSpace char = false ∧
      (char ≠ '+' ∧ char ≠ '-') ∧ char ≠ 'x' ∧ char ≠ 'X' := by
  obtain ⟨digit, small, rfl⟩ := isDigit
  have checked :
      ∀ digit < 16,
        asciiOf (Nat.digitChar digit) = Nat.digitChar digit ∧
          isAsciiSpace (Nat.digitChar digit) = false ∧
          (Nat.digitChar digit ≠ '+' ∧ Nat.digitChar digit ≠ '-') ∧
          Nat.digitChar digit ≠ 'x' ∧ Nat.digitChar digit ≠ 'X' := by
    decide
  exact checked digit small

/-- The characters of a fixed numeral are digits. -/
theorem isDigit_of_mem_fixedDigits
    {width number : Nat}
    {char : Char}
    (member : char ∈ fixedDigits 16 width number) :
    IsDigit char := by
  induction width generalizing number with
  | zero => cases member
  | succ width inductionHypothesis =>
      rcases List.mem_append.mp member with earlier | last
      · exact inductionHypothesis earlier
      · exact ⟨number % 16, Nat.mod_lt _ (by decide),
          List.mem_singleton.mp last⟩

/-- A digit is appended to the value, whatever stands before it. -/
theorem readDigits_digit
    {digit : Nat}
    (small : digit < 16)
    (afterDigit : Bool)
    (value : Nat)
    (rest : List Char) :
    readDigits afterDigit value (Nat.digitChar digit :: rest) =
      readDigits true (value * 16 + digit) rest := by
  simp only [readDigits, hexDigit?_digitChar small]

/-- A fixed numeral behind digits adds its number to theirs. -/
theorem readDigits_fixedDigits
    (width number value : Nat)
    (rest : List Char) :
    readDigits true value (fixedDigits 16 width number ++ rest) =
      readDigits true (value * 16 ^ width + number % 16 ^ width) rest := by
  induction width generalizing number rest with
  | zero => simp [fixedDigits, Nat.mod_one]
  | succ width inductionHypothesis =>
      rw [fixedDigits, List.append_assoc, List.singleton_append,
        inductionHypothesis, readDigits_digit (Nat.mod_lt _ (by decide))]
      have sameValue :
          (value * 16 ^ width + number / 16 % 16 ^ width) * 16 +
              number % 16 =
            value * 16 ^ (width + 1) + number % 16 ^ (width + 1) := by
        rw [Nat.pow_succ', Nat.mod_mul, Nat.add_mul, Nat.mul_comm 16,
          Nat.mul_assoc, Nat.mul_comm 16]
        omega
      rw [sameValue]

/-- Before the first digit is read as behind one where a digit comes next. -/
theorem readDigits_start
    {value : Nat}
    {char : Char}
    {rest : List Char}
    (isDigit : IsDigit char) :
    readDigits false value (char :: rest) =
      readDigits true value (char :: rest) := by
  obtain ⟨digit, small, rfl⟩ := isDigit
  rw [readDigits_digit small, readDigits_digit small]

/-- A text of digits carries neither sign nor marker. -/
theorem plain_text
    {text : List Char}
    (digits : ∀ char ∈ text, IsDigit char) :
    splitSign (stripEnds isAsciiSpace (text.map asciiOf)) = (false, text) ∧
      skipMarker text = text := by
  have sameText : text.map asciiOf = text := by
    calc
      text.map asciiOf = text.map id :=
        List.map_congr_left fun char member =>
          (plain_of_isDigit (digits char member)).1
      _ = text := List.map_id text
  rw [sameText, stripEnds_of_none fun char member =>
    (plain_of_isDigit (digits char member)).2.1]
  constructor
  · have notHead : ∀ sign : Char, (sign = '+' ∨ sign = '-') →
        text.head? ≠ some sign := by
      intro sign isSign atHead
      have plain :=
        (plain_of_isDigit (digits sign (List.mem_of_head? atHead))).2.2.1
      exact isSign.elim plain.1 plain.2
    rw [splitSign, if_neg (notHead '+' (.inl rfl)),
      if_neg (notHead '-' (.inr rfl))]
  · have notSecond : ∀ marker : Char, (marker = 'x' ∨ marker = 'X') →
        text.take 2 ≠ ['0', marker] := by
      intro marker isMarker atStart
      have member : marker ∈ text := by
        apply List.mem_of_mem_take (i := 2)
        rw [atStart]
        exact List.mem_cons_of_mem _ List.mem_cons_self
      have plain := (plain_of_isDigit (digits marker member)).2.2.2
      exact isMarker.elim plain.1 plain.2
    rw [skipMarker, if_neg]
    rintro (lower | upper)
    · exact notSecond 'x' (.inl rfl) lower
    · exact notSecond 'X' (.inr rfl) upper

/-- A fixed numeral is read as its number. -/
theorem intBase16?_fixedDigits
    {width number : Nat}
    (nonempty : 0 < width)
    (fits : number < 16 ^ width) :
    intBase16? (fixedDigits 16 width number) = some (number : Int) := by
  have digits :
      ∀ char ∈ fixedDigits 16 width number, IsDigit char :=
    fun _ member => isDigit_of_mem_fixedDigits member
  obtain ⟨plainSign, plainMarker⟩ := plain_text digits
  have started :
      readDigits false 0 (fixedDigits 16 width number) =
        readDigits true 0 (fixedDigits 16 width number) := by
    cases shape : fixedDigits 16 width number with
    | nil =>
        have long : (fixedDigits 16 width number).length = width :=
          length_fixedDigits width number
        rw [shape] at long
        exact absurd long.symm (Nat.pos_iff_ne_zero.mp nonempty)
    | cons char rest =>
        exact readDigits_start (digits char (by rw [shape]; simp))
  have read := readDigits_fixedDigits width number 0 []
  rw [List.append_nil] at read
  unfold intBase16?
  rw [plainSign]
  simp only [plainMarker]
  rw [started, read, Nat.zero_mul, Nat.zero_add, Nat.mod_eq_of_lt fits]
  simp [readDigits]

end HexLiterals
