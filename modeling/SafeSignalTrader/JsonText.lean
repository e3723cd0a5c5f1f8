import Mathlib.Data.List.Sort
import SafeSignalTrader.OrderedDict
import SafeSignalTrader.PythonString
import SafeSignalTrader.PythonText

/-!
# JSON text of flat objects

`json.dumps` with sorted keys, the separators `,` and `:` and escapes for all
characters beyond printable ASCII, for objects whose values are scalars.  The
text can be read back 16-bit unit by unit, so it determines the object up to
the order of its keys and to the way its strings write the characters beyond
`U+FFFF`.
-/

namespace JsonText

/-- A value that is neither an array nor an object. -/
inductive Scalar where
  | null
  | bool (value : Bool)
  | int (value : Int)
  | str (text : PyString)
  deriving Repr, DecidableEq

section Characters

/-- The code points with an escape of one letter. -/
def shortEscapes : List (Nat × Char) :=
  [(0x22, '"'), (0x5C, '\\'), (0x0A, 'n'), (0x0D, 'r'), (0x09, 't'),
    (0x08, 'b'), (0x0C, 'f')]

/-- The hexadecimal digit of a value below 16, in lower case. -/
def hexDigit (value : Nat) : Char :=
  if value < 10 then Char.ofNat (48 + value) else Char.ofNat (87 + value)

/-- The value of a hexadecimal digit. -/
def hexValue (digit : Char) : Nat :=
  if digit.toNat < 58 then digit.toNat - 48 else digit.toNat - 87

/-- `\uXXXX` of a 16-bit unit. -/
def unicodeEscape (unit : Nat) : List Char :=
  ['\\', 'u', hexDigit (unit / 4096), hexDigit (unit / 256 % 16),
    hexDigit (unit / 16 % 16), hexDigit (unit % 16)]

/-- One code point of a JSON string; beyond 16 bits it is a surrogate pair. -/
def escapePoint (point : CodePoint) : List Char :=
  match shortEscapes.lookup point.val with
  | some letter => ['\\', letter]
  | none =>
      if 0x20 ≤ point.val ∧ point.val ≤ 0x7E then
        [Char.ofNat point.val]
      else if point.val < 0x10000 then
        unicodeEscape point.val
      else
        unicodeEscape (0xD800 + (point.val - 0x10000) / 0x400) ++
          unicodeEscape (0xDC00 + (point.val - 0x10000) % 0x400)

/-- What a JSON string writes for one 16-bit unit. -/
def escapeUnit (unit : Nat) : List Char :=
  match shortEscapes.lookup unit with
  | some letter => ['\\', letter]
  | none =>
      if 0x20 ≤ unit ∧ unit ≤ 0x7E then
        [Char.ofNat unit]
      else
        unicodeEscape unit

/-- The 16-bit unit of four hexadecimal digits. -/
def readHex (first second third fourth : Char) : Nat :=
  hexValue first * 4096 + hexValue second * 256 + hexValue third * 16 +
    hexValue fourth

/-- Read the first 16-bit unit of a JSON string back. -/
def readUnit? : List Char → Option (Nat × List Char)
  | '\\' :: 'u' :: first :: second :: third :: fourth :: rest =>
      some (readHex first second third fourth, rest)
  | '\\' :: letter :: rest =>
      (shortEscapes.find? fun escape => escape.2 = letter).map
        fun escape => (escape.1, rest)
  | char :: rest => some (char.toNat, rest)
  | [] => none

theorem hexValue_hexDigit {value : Nat} (bounded : value < 16) :
    hexValue (hexDigit value) = value := by
  revert value
  decide

/-- The digits of a 16-bit unit give the unit back. -/
theorem readHex_digits {unit : Nat} (bounded : unit < 0x10000) :
    readHex (hexDigit (unit / 4096)) (hexDigit (unit / 256 % 16))
      (hexDigit (unit / 16 % 16)) (hexDigit (unit % 16)) = unit := by
  unfold readHex
  rw [hexValue_hexDigit (by omega), hexValue_hexDigit (by omega),
    hexValue_hexDigit (by omega), hexValue_hexDigit (by omega)]
  omega

/-- The units with a short escape, and the others. -/
theorem lookup_cases (unit : Nat) :
    (∃ letter, shortEscapes.lookup unit = some letter ∧
        (unit, letter) ∈ shortEscapes) ∨
      shortEscapes.lookup unit = none ∧
        unit ≠ 0x22 ∧ unit ≠ 0x5C := by
  cases short : shortEscapes.lookup unit with
  | some letter =>
      obtain ⟨before, after, shape, _⟩ := List.lookup_eq_some_iff.mp short
      refine Or.inl ⟨letter, rfl, ?_⟩
      rw [shape]
      exact List.mem_append_right _ List.mem_cons_self
  | none =>
      refine Or.inr ⟨rfl, ?_, ?_⟩
      · intro isQuote
        subst isQuote
        cases short
      · intro isBackslash
        subst isBackslash
        cases short

/-- A printable character that is not escaped. -/
theorem toNat_printable {unit : Nat} (printable : unit ≤ 0x7E) :
    (Char.ofNat unit).toNat = unit := by
  have valid : unit.isValidChar := Or.inl (by omega)
  rw [Char.ofNat, dif_pos valid]
  rfl

theorem ofNat_ne
    {unit : Nat}
    {char : Char}
    (printable : unit ≤ 0x7E)
    (different : unit ≠ char.toNat) :
    Char.ofNat unit ≠ char := by
  intro same
  rw [← same, toNat_printable printable] at different
  exact different rfl

/-- The text of a unit is read back as the unit. -/
theorem readUnit?_escapeUnit
    {unit : Nat}
    (bounded : unit < 0x10000)
    (rest : List Char) :
    readUnit? (escapeUnit unit ++ rest) = some (unit, rest) := by
  unfold escapeUnit
  rcases lookup_cases unit with
    ⟨letter, short, member⟩ | ⟨long, _, notBackslash⟩
  · rw [short]
    simp only [shortEscapes, List.mem_cons, Prod.mk.injEq,
      List.not_mem_nil, or_false] at member
    rcases member with ⟨rfl, rfl⟩ | ⟨rfl, rfl⟩ | ⟨rfl, rfl⟩ | ⟨rfl, rfl⟩ |
      ⟨rfl, rfl⟩ | ⟨rfl, rfl⟩ | ⟨rfl, rfl⟩ <;> rfl
  · rw [long]
    dsimp only
    split
    · next printable =>
        have plain : Char.ofNat unit ≠ '\\' :=
          ofNat_ne printable.2 notBackslash
        unfold readUnit?
        split
        · next same => exact absurd (List.cons.inj same).1 plain
        · next same => exact absurd (List.cons.inj same).1 plain
        · next same =>
            obtain ⟨rfl, rfl⟩ := List.cons.inj same
            rw [toNat_printable printable.2]
            rfl
        · next same => cases same
    · simp only [unicodeEscape, List.cons_append, List.nil_append, readUnit?,
        readHex_digits bounded]

/-- No escape starts with a quotation mark, so none can end a string. -/
theorem escapeUnit_head (unit : Nat) (rest : List Char) :
    ∃ head tail, escapeUnit unit ++ rest = head :: tail ∧ head ≠ '"' := by
  unfold escapeUnit
  rcases lookup_cases unit with
    ⟨letter, short, _⟩ | ⟨long, notQuote, _⟩
  · rw [short]
    exact ⟨'\\', _, rfl, by decide⟩
  · rw [long]
    dsimp only
    split
    · next printable =>
        exact ⟨Char.ofNat unit, rest, rfl, ofNat_ne printable.2 notQuote⟩
    · exact ⟨'\\', _, rfl, by decide⟩

/-- A unit that is neither short nor printable is written in hexadecimal. -/
theorem escapeUnit_of_large {unit : Nat} (large : 0x7F ≤ unit) :
    escapeUnit unit = unicodeEscape unit := by
  unfold escapeUnit
  rcases lookup_cases unit with ⟨letter, _, member⟩ | ⟨long, _⟩
  · simp only [shortEscapes, List.mem_cons, Prod.mk.injEq,
      List.not_mem_nil, or_false] at member
    omega
  · rw [long]
    exact if_neg (by omega)

/-- A code point is written unit by unit. -/
theorem escapePoint_eq (point : CodePoint) :
    escapePoint point = point.utf16.flatMap escapeUnit := by
  by_cases short : point.val < 0x10000
  · rw [CodePoint.utf16, if_pos short, List.flatMap_singleton]
    simp only [escapePoint, escapeUnit, if_pos short]
  · rw [CodePoint.utf16, if_neg short, List.flatMap_cons,
      List.flatMap_singleton, escapeUnit_of_large (by omega),
      escapeUnit_of_large (by omega)]
    unfold escapePoint
    rcases lookup_cases point.val with ⟨letter, _, member⟩ | ⟨long, _⟩
    · simp only [shortEscapes, List.mem_cons, Prod.mk.injEq,
        List.not_mem_nil, or_false] at member
      omega
    · rw [long]
      dsimp only
      rw [if_neg (by omega), if_neg short]

end Characters

section Strings

/-- A JSON string. -/
def encodeString (text : PyString) : List Char :=
  '"' :: text.codePoints.flatMap escapePoint ++ ['"']

/-- A string is written unit by unit. -/
theorem encodeString_eq (text : PyString) :
    encodeString text = '"' :: (text.utf16.flatMap escapeUnit ++ ['"']) := by
  rw [encodeString, List.cons_append, PyString.utf16, List.flatMap_assoc,
    funext escapePoint_eq]

/-- Units are told apart by their texts, whatever follows the string. -/
theorem units_inj
    {first second : List Nat}
    {firstRest secondRest : List Char}
    (firstBounded : ∀ unit ∈ first, unit < 0x10000)
    (secondBounded : ∀ unit ∈ second, unit < 0x10000)
    (same : first.flatMap escapeUnit ++ '"' :: firstRest =
      second.flatMap escapeUnit ++ '"' :: secondRest) :
    first = second ∧ firstRest = secondRest := by
  induction first generalizing second with
  | nil =>
      cases second with
      | nil =>
          exact ⟨rfl, (List.cons.inj same).2⟩
      | cons unit rest =>
          rw [List.flatMap_nil, List.flatMap_cons, List.append_assoc] at same
          obtain ⟨head, tail, shape, notQuote⟩ :=
            escapeUnit_head unit (rest.flatMap escapeUnit ++ '"' :: secondRest)
          rw [shape] at same
          exact absurd (List.cons.inj same).1.symm notQuote
  | cons firstUnit firstUnits inductionHypothesis =>
      cases second with
      | nil =>
          rw [List.flatMap_nil, List.flatMap_cons, List.append_assoc] at same
          obtain ⟨head, tail, shape, notQuote⟩ :=
            escapeUnit_head firstUnit
              (firstUnits.flatMap escapeUnit ++ '"' :: firstRest)
          rw [shape] at same
          exact absurd (List.cons.inj same).1 notQuote
      | cons secondUnit secondUnits =>
          rw [List.flatMap_cons, List.flatMap_cons, List.append_assoc,
            List.append_assoc] at same
          have readBack := congrArg readUnit? same
          rw [readUnit?_escapeUnit (firstBounded _ List.mem_cons_self),
            readUnit?_escapeUnit (secondBounded _ List.mem_cons_self),
            Option.some.injEq, Prod.mk.injEq] at readBack
          obtain ⟨sameUnit, sameTail⟩ := readBack
          obtain ⟨sameUnits, sameRest⟩ :=
            inductionHypothesis
              (fun unit member =>
                firstBounded unit (List.mem_cons_of_mem _ member))
              (fun unit member =>
                secondBounded unit (List.mem_cons_of_mem _ member))
              sameTail
          exact ⟨by rw [sameUnit, sameUnits], sameRest⟩

/-- A JSON string determines the units of its text and what follows it. -/
theorem encodeString_inj
    {first second : PyString}
    {firstRest secondRest : List Char}
    (same : encodeString first ++ firstRest =
      encodeString second ++ secondRest) :
    first.utf16 = second.utf16 ∧ firstRest = secondRest := by
  rw [encodeString_eq, encodeString_eq, List.cons_append, List.cons_append,
    List.append_assoc, List.append_assoc] at same
  exact units_inj first.utf16_lt second.utf16_lt (List.cons.inj same).2

/-- The text of a Lean string determines it. -/
theorem encodeKey_inj
    {first second : String}
    {firstRest secondRest : List Char}
    (same : encodeString first ++ firstRest =
      encodeString second ++ secondRest) :
    first = second ∧ firstRest = secondRest := by
  obtain ⟨sameUnits, sameRest⟩ := encodeString_inj same
  exact ⟨PyString.eq_of_utf16_ofString sameUnits, sameRest⟩

end Strings

section Scalars

/-- Two scalars that agree, strings by their 16-bit units. -/
def Scalar.Alike : Scalar → Scalar → Prop
  | .str first, .str second => first.utf16 = second.utf16
  | first, second => first = second

/-- The text of a scalar. -/
def encodeScalar : Scalar → List Char
  | .null => "null".toList
  | .bool true => "true".toList
  | .bool false => "false".toList
  | .int value => (toString value).toList
  | .str text => encodeString text

/-- A lower-case ASCII letter. -/
def isLetter (char : Char) : Bool :=
  97 ≤ char.toNat && char.toNat ≤ 122

/-- The characters of numbers and of the three constants. -/
def isBare (char : Char) : Bool :=
  char.isDigit || char == '-' || isLetter char

/-- A scalar that is not a string has a bare text. -/
theorem bare_of_not_str
    {scalar : Scalar}
    (notStr : ∀ text, scalar ≠ .str text) :
    ∀ char ∈ encodeScalar scalar, isBare char = true := by
  cases scalar with
  | null =>
      exact List.all_eq_true.mp (by decide)
  | bool value =>
      cases value with
      | true => exact List.all_eq_true.mp (by decide)
      | false => exact List.all_eq_true.mp (by decide)
  | int value =>
      intro char member
      rw [encodeScalar, PythonText.toString_int_eq] at member
      have digitOrSign : char.isDigit = true ∨ char = '-' := by
        split at member
        · exact Or.inl (PythonText.isDigit_of_mem_toString member)
        · rcases List.mem_cons.mp member with isSign | inDigits
          · exact Or.inr isSign
          · exact Or.inl (PythonText.isDigit_of_mem_toString inDigits)
      rcases digitOrSign with digit | isSign
      · simp [isBare, digit]
      · simp [isBare, isSign]
  | str text =>
      exact absurd rfl (notStr text)

/-- A letter is no character of a number. -/
theorem not_mem_int_of_letter
    {letter : Char}
    (letterCode : isLetter letter = true)
    (value : Int) :
    letter ∉ encodeScalar (.int value) := by
  intro member
  have notDigit : letter.isDigit = false := by
    have bounds : 97 ≤ letter.toNat := by
      simp only [isLetter, Bool.and_eq_true, decide_eq_true_eq] at letterCode
      exact letterCode.1
    simp only [Char.isDigit, Bool.and_eq_false_iff, decide_eq_false_iff_not]
    refine Or.inr fun small => ?_
    have belowNine : letter.toNat ≤ 57 := small
    omega
  have notSign : letter ≠ '-' := by
    intro isSign
    subst isSign
    revert letterCode
    decide
  rw [encodeScalar, PythonText.toString_int_eq] at member
  split at member
  · rw [PythonText.isDigit_of_mem_toString member] at notDigit
    cases notDigit
  · rcases List.mem_cons.mp member with isSign | inDigits
    · exact notSign isSign
    · rw [PythonText.isDigit_of_mem_toString inDigits] at notDigit
      cases notDigit

/-- A quotation mark stands in strings only. -/
theorem quote_mem_iff {scalar : Scalar} :
    '"' ∈ encodeScalar scalar ↔ ∃ text, scalar = .str text := by
  constructor
  · intro member
    by_contra notStr
    push Not at notStr
    exact absurd (bare_of_not_str notStr _ member) (by decide)
  · intro isStr
    obtain ⟨text, rfl⟩ := isStr
    exact List.mem_cons_self

/-- The scalars that are named by a word. -/
def constants : List Scalar :=
  [.null, .bool true, .bool false]

theorem constant_or_int
    {scalar : Scalar}
    (notStr : ¬ ∃ text, scalar = .str text) :
    scalar ∈ constants ∨ ∃ value, scalar = .int value := by
  cases scalar with
  | null => exact Or.inl (by decide)
  | bool value =>
      cases value with
      | true => exact Or.inl (by decide)
      | false => exact Or.inl (by decide)
  | int value => exact Or.inr ⟨value, rfl⟩
  | str text => exact absurd ⟨text, rfl⟩ notStr

theorem constants_injective :
    ∀ first ∈ constants, ∀ second ∈ constants,
      encodeScalar first = encodeScalar second → first = second := by
  decide

theorem constants_have_letter :
    ∀ scalar ∈ constants, (encodeScalar scalar).any isLetter = true := by
  decide

/-- No constant reads like a number. -/
theorem constant_ne_int
    {constant : Scalar}
    (member : constant ∈ constants)
    (value : Int) :
    encodeScalar constant ≠ encodeScalar (.int value) := by
  intro same
  obtain ⟨letter, inText, letterCode⟩ :=
    List.any_eq_true.mp (constants_have_letter constant member)
  rw [same] at inText
  exact not_mem_int_of_letter letterCode value inText

/-- Scalars that are no strings are told apart by their texts. -/
theorem encodeScalar_injective
    {first second : Scalar}
    (firstNotStr : ¬ ∃ text, first = .str text)
    (secondNotStr : ¬ ∃ text, second = .str text)
    (same : encodeScalar first = encodeScalar second) :
    first = second := by
  rcases constant_or_int firstNotStr with firstConstant | ⟨firstValue, rfl⟩
  · rcases constant_or_int secondNotStr with
      secondConstant | ⟨secondValue, rfl⟩
    · exact constants_injective _ firstConstant _ secondConstant same
    · exact absurd same (constant_ne_int firstConstant secondValue)
  · rcases constant_or_int secondNotStr with
      secondConstant | ⟨secondValue, rfl⟩
    · exact absurd same.symm (constant_ne_int secondConstant firstValue)
    · rw [PythonText.toString_int_injective same]

/-- Equal scalars agree. -/
theorem Scalar.Alike.refl (scalar : Scalar) : scalar.Alike scalar := by
  cases scalar <;> rfl

/-- The text of a scalar starts with a quotation mark exactly for a string. -/
theorem head_of_not_str
    {scalar : Scalar}
    (notStr : ¬ ∃ text, scalar = .str text)
    {delimiter : Char}
    {rest tail : List Char}
    (notQuote : delimiter ≠ '"') :
    encodeScalar scalar ++ delimiter :: rest ≠ '"' :: tail := by
  intro shape
  cases text : encodeScalar scalar with
  | nil =>
      rw [text] at shape
      exact notQuote (List.cons.inj shape).1
  | cons head remaining =>
      rw [text] at shape
      have isQuote : head = '"' := (List.cons.inj shape).1
      apply notStr
      rw [← quote_mem_iff, text, isQuote]
      exact List.mem_cons_self

/-- Before a delimiter, the text of a scalar determines what it says. -/
theorem encodeScalar_inj
    {first second : Scalar}
    {firstEnd secondEnd : Char}
    {firstRest secondRest : List Char}
    (firstDelimits : firstEnd = ',' ∨ firstEnd = '}')
    (secondDelimits : secondEnd = ',' ∨ secondEnd = '}')
    (same : encodeScalar first ++ firstEnd :: firstRest =
      encodeScalar second ++ secondEnd :: secondRest) :
    first.Alike second ∧
      firstEnd :: firstRest = secondEnd :: secondRest := by
  have delimits :
      ∀ delimiter, delimiter = ',' ∨ delimiter = '}' →
        isBare delimiter = false ∧ delimiter ≠ '"' := by
    intro delimiter isDelimiter
    rcases isDelimiter with rfl | rfl
    · decide
    · decide
  obtain ⟨firstNotBare, firstNotQuote⟩ := delimits firstEnd firstDelimits
  obtain ⟨secondNotBare, secondNotQuote⟩ := delimits secondEnd secondDelimits
  by_cases firstStr : ∃ text, first = .str text
  · obtain ⟨firstText, rfl⟩ := firstStr
    by_cases secondStr : ∃ text, second = .str text
    · obtain ⟨secondText, rfl⟩ := secondStr
      exact encodeString_inj same
    · exact absurd same.symm (head_of_not_str secondStr secondNotQuote)
  · by_cases secondStr : ∃ text, second = .str text
    · obtain ⟨secondText, rfl⟩ := secondStr
      exact absurd same (head_of_not_str firstStr firstNotQuote)
    · obtain ⟨sameText, sameRest⟩ :=
        PythonText.delimited_append_inj
          (bare_of_not_str (not_exists.mp firstStr))
          (bare_of_not_str (not_exists.mp secondStr))
          firstNotBare secondNotBare same
      rw [encodeScalar_injective firstStr secondStr sameText]
      exact ⟨.refl _, sameRest⟩

end Scalars

section Objects

/-- One member of an object. -/
def encodeMember (entry : String × Scalar) : List Char :=
  encodeString entry.1 ++ ':' :: encodeScalar entry.2

/-- The members of an object in the order of their keys. -/
def sortedMembers
    (payload : OrderedDict String Scalar) : List (String × Scalar) :=
  payload.entries.insertionSort fun first second => first.1 ≤ second.1

/-- `json.dumps(payload, sort_keys=True, separators=(",", ":"))`. -/
def dumps (payload : OrderedDict String Scalar) : String :=
  String.ofList ('{' ::
    [','].intercalate ((sortedMembers payload).map encodeMember) ++ ['}'])

/-- The text after the first members of an object. -/
def membersTail : List (String × Scalar) → List Char
  | [] => ['}']
  | entry :: rest => ',' :: encodeMember entry ++ membersTail rest

/-- The joined members are the first one and the text after it. -/
theorem intercalate_members
    (first : String × Scalar)
    (rest : List (String × Scalar)) :
    [','].intercalate ((first :: rest).map encodeMember) ++ ['}'] =
      encodeMember first ++ membersTail rest := by
  induction rest generalizing first with
  | nil =>
      simp [membersTail]
  | cons second rest inductionHypothesis =>
      rw [List.map_cons, List.map_cons, List.intercalate_cons_cons,
        membersTail, List.append_assoc, ← List.map_cons,
        inductionHypothesis]
      simp

/-- After a member comes a delimiter. -/
theorem membersTail_head (rest : List (String × Scalar)) :
    ∃ delimiter tail, membersTail rest = delimiter :: tail ∧
      (delimiter = ',' ∨ delimiter = '}') := by
  cases rest with
  | nil => exact ⟨'}', [], rfl, Or.inr rfl⟩
  | cons entry others => exact ⟨',', _, rfl, Or.inl rfl⟩

/-- Two members with one key that agree. -/
def AlikeMembers (first second : String × Scalar) : Prop :=
  first.1 = second.1 ∧ first.2.Alike second.2

/-- A member determines its key, what its value says and what follows it. -/
theorem encodeMember_inj
    {first second : String × Scalar}
    {firstRest secondRest : List (String × Scalar)}
    (same : encodeMember first ++ membersTail firstRest =
      encodeMember second ++ membersTail secondRest) :
    AlikeMembers first second ∧
      membersTail firstRest = membersTail secondRest := by
  obtain ⟨firstEnd, firstTail, firstShape, firstDelimits⟩ :=
    membersTail_head firstRest
  obtain ⟨secondEnd, secondTail, secondShape, secondDelimits⟩ :=
    membersTail_head secondRest
  simp only [encodeMember, List.append_assoc, List.cons_append] at same
  obtain ⟨sameKey, sameValueText⟩ := encodeKey_inj same
  have sameValue := (List.cons.inj sameValueText).2
  rw [firstShape, secondShape] at sameValue ⊢
  obtain ⟨alike, sameRest⟩ :=
    encodeScalar_inj firstDelimits secondDelimits sameValue
  exact ⟨⟨sameKey, alike⟩, sameRest⟩

/-- The text after a member determines what the members in it say. -/
theorem membersTail_inj
    {first second : List (String × Scalar)}
    (same : membersTail first = membersTail second) :
    List.Forall₂ AlikeMembers first second := by
  induction first generalizing second with
  | nil =>
      cases second with
      | nil => exact .nil
      | cons entry rest => exact absurd (List.cons.inj same).1 (by decide)
  | cons firstEntry firstRest inductionHypothesis =>
      cases second with
      | nil => exact absurd (List.cons.inj same).1 (by decide)
      | cons secondEntry secondRest =>
          obtain ⟨alike, sameTail⟩ := encodeMember_inj (List.cons.inj same).2
          exact .cons alike (inductionHypothesis sameTail)

/-- The text between the braces determines what the members say. -/
theorem members_inj
    {first second : List (String × Scalar)}
    (same : [','].intercalate (first.map encodeMember) ++ ['}'] =
      [','].intercalate (second.map encodeMember) ++ ['}']) :
    List.Forall₂ AlikeMembers first second := by
  have startsQuoted :
      ∀ (entry : String × Scalar) (rest : List (String × Scalar)),
        encodeMember entry ++ membersTail rest ≠ ['}'] := by
    intro entry rest shape
    exact absurd (List.cons.inj shape).1 (by decide)
  cases first with
  | nil =>
      cases second with
      | nil => exact .nil
      | cons entry rest =>
          rw [intercalate_members] at same
          exact absurd same.symm (startsQuoted entry rest)
  | cons firstEntry firstRest =>
      cases second with
      | nil =>
          rw [intercalate_members] at same
          exact absurd same (startsQuoted firstEntry firstRest)
      | cons secondEntry secondRest =>
          rw [intercalate_members, intercalate_members] at same
          obtain ⟨alike, sameTail⟩ := encodeMember_inj same
          exact .cons alike (membersTail_inj sameTail)

theorem mem_sortedMembers
    {payload : OrderedDict String Scalar}
    {entry : String × Scalar} :
    entry ∈ sortedMembers payload ↔ entry ∈ payload.entries :=
  List.mem_insertionSort _

/-- Under one key, objects with one text hold values that agree. -/
theorem alike_of_dumps_eq
    {first second : OrderedDict String Scalar}
    (same : dumps first = dumps second)
    {key : String}
    {firstValue secondValue : Scalar}
    (firstMember : (key, firstValue) ∈ first.entries)
    (secondMember : (key, secondValue) ∈ second.entries) :
    firstValue.Alike secondValue := by
  have sameText := (List.cons.inj (String.ofList_inj.mp same)).2
  have related :
      List.Forall₂ AlikeMembers (sortedMembers first)
        (sortedMembers second) :=
    members_inj sameText
  obtain ⟨sameLength, alike⟩ := List.forall₂_iff_get.mp related
  obtain ⟨index, isFirst⟩ :=
    List.get_of_mem (mem_sortedMembers.mpr firstMember)
  have bounded : index.val < (sortedMembers second).length := by
    rw [← sameLength]
    exact index.isLt
  obtain ⟨sameKey, sameValue⟩ := alike index.val index.isLt bounded
  rw [isFirst] at sameKey sameValue
  have inSecond :
      (key, ((sortedMembers second).get ⟨index.val, bounded⟩).2) ∈
        second.entries := by
    rw [show key = _ from sameKey]
    exact mem_sortedMembers.mp (List.get_mem _ _)
  rw [second.entry_unique secondMember inSecond]
  exact sameValue

/-- Objects with one text and the same keys agree entry by entry. -/
theorem entries_alike_of_dumps_eq
    {first second : OrderedDict String Scalar}
    (sameKeys : first.keys = second.keys)
    (same : dumps first = dumps second) :
    List.Forall₂ AlikeMembers first.entries second.entries := by
  have sameLength : first.entries.length = second.entries.length := by
    simpa [OrderedDict.keys] using congrArg List.length sameKeys
  apply List.forall₂_iff_get.mpr
  refine ⟨sameLength, ?_⟩
  intro index inFirst inSecond
  have sameKey :
      (first.entries.get ⟨index, inFirst⟩).1 =
        (second.entries.get ⟨index, inSecond⟩).1 := by
    have sameAt := congrArg (fun keys => keys[index]?) sameKeys
    simpa [OrderedDict.keys, inFirst, inSecond] using sameAt
  refine ⟨sameKey, alike_of_dumps_eq same (List.get_mem _ _) ?_⟩
  rw [sameKey]
  exact List.get_mem _ _

end Objects

end JsonText
