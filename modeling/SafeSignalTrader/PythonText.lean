import Mathlib.Data.Finset.Sort
import Mathlib.Data.List.TakeWhile
import Mathlib.Data.Rat.Defs
import Mathlib.Data.String.Basic

/-!
# Characters and numerals of Python text

White space and decimal digits of `str`, the case rules of `re.IGNORECASE` and
of `str.upper` for the characters an ASCII pattern can match, and the
conversions `int` and `Decimal` of numerals without sign and exponent.  The
digit table is that of Unicode 15, which Python 3.12 uses.
-/

namespace PythonText

/-- `str.isspace` of one character, which is also `\s` in a pattern. -/
def isSpace (char : Char) : Bool :=
  let code := char.toNat
  (0x09 ≤ code && code ≤ 0x0D) || (0x1C ≤ code && code ≤ 0x20) ||
    code == 0x85 || code == 0xA0 || code == 0x1680 ||
    (0x2000 ≤ code && code ≤ 0x200A) || code == 0x2028 ||
    code == 0x2029 || code == 0x202F || code == 0x205F || code == 0x3000

/-- `str.strip()`. -/
def strip (text : List Char) : List Char :=
  ((text.dropWhile isSpace).reverse.dropWhile isSpace).reverse

/-- `sorted` of the set of some texts. -/
def sortedSet
    {Text : Type}
    [DecidableEq Text] [LinearOrder Text]
    (texts : List Text) : List Text :=
  texts.toFinset.sort

/-- The code points of the zeros of all runs of ten decimal digits. -/
def decimalZeros : List Nat :=
  [0x0030, 0x0660, 0x06F0, 0x07C0, 0x0966, 0x09E6, 0x0A66, 0x0AE6, 0x0B66,
    0x0BE6, 0x0C66, 0x0CE6, 0x0D66, 0x0DE6, 0x0E50, 0x0ED0, 0x0F20, 0x1040,
    0x1090, 0x17E0, 0x1810, 0x1946, 0x19D0, 0x1A80, 0x1A90, 0x1B50, 0x1BB0,
    0x1C40, 0x1C50, 0xA620, 0xA8D0, 0xA900, 0xA9D0, 0xA9F0, 0xAA50, 0xABF0,
    0xFF10, 0x104A0, 0x10D30, 0x11066, 0x110F0, 0x11136, 0x111D0, 0x112F0,
    0x11450, 0x114D0, 0x11650, 0x116C0, 0x11730, 0x118E0, 0x11950, 0x11C50,
    0x11D50, 0x11DA0, 0x11F50, 0x16A60, 0x16AC0, 0x16B50, 0x1D7CE, 0x1D7D8,
    0x1D7E2, 0x1D7EC, 0x1D7F6, 0x1E140, 0x1E2F0, 0x1E4F0, 0x1E950, 0x1FBF0]

/-- The value of a decimal digit of any script. -/
def digitValue? (char : Char) : Option Nat :=
  (decimalZeros.find? fun start =>
    start ≤ char.toNat && char.toNat < start + 10).map
      fun start => char.toNat - start

/-- `\d` in a pattern. -/
def isDigit (char : Char) : Bool :=
  (digitValue? char).isSome

/-- The lower case of the characters whose lower case is ASCII. -/
def lower (char : Char) : Char :=
  if 'A' ≤ char ∧ char ≤ 'Z' then
    Char.ofNat (char.toNat + 32)
  else if char.toNat = 0x130 then
    'i'
  else if char.toNat = 0x212A then
    'k'
  else
    char

/-- `str.upper` of an ASCII character or one that folds to ASCII. -/
def upper (char : Char) : Char :=
  if 'a' ≤ char ∧ char ≤ 'z' then
    Char.ofNat (char.toNat - 32)
  else if char.toNat = 0x131 then
    'I'
  else if char.toNat = 0x17F then
    'S'
  else
    char

/--
Whether `re.IGNORECASE` lets a character stand for an ASCII one: equal lower
case, or the dotless i, or the long s.
-/
def foldsTo (expected char : Char) : Bool :=
  lower char == lower expected ||
    (lower expected == 'i' && char.toNat == 0x131) ||
    (lower expected == 's' && char.toNat == 0x17F)

/-- `[A-Za-z0-9]` under `re.IGNORECASE`. -/
def isAlnumIgnoreCase (char : Char) : Bool :=
  ('a' ≤ lower char && lower char ≤ 'z') || ('0' ≤ char && char ≤ '9') ||
    char.toNat == 0x131 || char.toNat == 0x17F

/-- `[\d.]` in a pattern. -/
def isNumeralChar (char : Char) : Bool :=
  isDigit char || char == '.'

/-- The value of a string of decimal digits, most significant first. -/
def digitsValue? (digits : List Char) : Option Nat :=
  digits.foldlM (fun value char => do
    let digit ← digitValue? char
    return value * 10 + digit) 0

/-- `str` of a natural number determines it. -/
theorem toString_injective
    {first second : Nat}
    (same : toString first = toString second) :
    first = second := by
  have sameDigits : Nat.toDigits 10 first = Nat.toDigits 10 second := by
    rw [← String.ofList_inj, ← Nat.repr_eq_ofList_toDigits,
      ← Nat.repr_eq_ofList_toDigits]
    exact same
  simpa using congrArg (fun digits => Nat.ofDigitChars 10 digits 0) sameDigits

/-- The digits of a number are digits. -/
theorem isDigit_of_mem_toString
    {value : Nat}
    {char : Char}
    (member : char ∈ (toString value).toList) :
    char.isDigit = true := by
  have inDigits : char ∈ Nat.toDigits 10 value := by
    simpa [Nat.repr_eq_ofList_toDigits] using member
  exact Nat.isDigit_of_mem_toDigits (by decide) (by decide) inDigits

/-- The text of an integer is that of its absolute value, after its sign. -/
theorem toString_int_eq (value : Int) :
    (toString value).toList =
      if 0 ≤ value then (toString value.natAbs).toList
      else '-' :: (toString value.natAbs).toList := by
  rw [Int.toString_eq_repr, Int.repr_eq_if]
  split
  · next nonneg =>
      have sameSize : value.toNat = value.natAbs := by omega
      rw [sameSize]
      rfl
  · next negative =>
      have sameSize : (-value).toNat = value.natAbs := by omega
      rw [sameSize, String.toList_append]
      rfl

/-- `str` of an integer determines it. -/
theorem toString_int_injective
    {first second : Int}
    (same : (toString first).toList = (toString second).toList) :
    first = second := by
  -- A minus sign is no digit, so equal texts have equal signs.
  have notDigits :
      ∀ size : Nat, ∀ rest, (toString size).toList ≠ '-' :: rest := by
    intro size rest shape
    have signIsDigit : '-'.isDigit = true :=
      isDigit_of_mem_toString (shape ▸ List.mem_cons_self)
    revert signIsDigit
    decide
  rw [toString_int_eq, toString_int_eq] at same
  split at same
  · split at same
    · have sameSize :=
        toString_injective (String.toList_inj.mp same)
      omega
    · exact absurd same (notDigits _ _)
  · split at same
    · exact absurd same.symm (notDigits _ _)
    · have sameSize := toString_injective
        (String.toList_inj.mp (List.cons.inj same).2)
      omega

/-- What stands before the first delimiter is determined, and so is the rest. -/
theorem delimited_append_inj
    {Symbol : Type}
    {inside : Symbol → Bool}
    {first second : List Symbol}
    {firstEnd secondEnd : Symbol}
    {firstRest secondRest : List Symbol}
    (firstInside : ∀ char ∈ first, inside char = true)
    (secondInside : ∀ char ∈ second, inside char = true)
    (firstDelimits : inside firstEnd = false)
    (secondDelimits : inside secondEnd = false)
    (same : first ++ firstEnd :: firstRest =
      second ++ secondEnd :: secondRest) :
    first = second ∧ firstEnd :: firstRest = secondEnd :: secondRest := by
  have sameStart := congrArg (List.takeWhile inside) same
  have sameEnd := congrArg (List.dropWhile inside) same
  rw [List.takeWhile_append_of_pos firstInside,
    List.takeWhile_append_of_pos secondInside,
    List.takeWhile_cons_of_neg (by simp [firstDelimits]),
    List.takeWhile_cons_of_neg (by simp [secondDelimits]),
    List.append_nil, List.append_nil] at sameStart
  rw [List.dropWhile_append_of_pos firstInside,
    List.dropWhile_append_of_pos secondInside,
    List.dropWhile_cons_of_neg (by simp [firstDelimits]),
    List.dropWhile_cons_of_neg (by simp [secondDelimits])] at sameEnd
  exact ⟨sameStart, sameEnd⟩

/-- A fraction bar stands in no integer. -/
theorem slash_notMem_toString_int (value : Int) :
    '/' ∉ (toString value).toList := by
  intro member
  have signOrDigit : '/' = '-' ∨ '/'.isDigit = true := by
    rw [toString_int_eq] at member
    split at member
    · exact Or.inr (isDigit_of_mem_toString member)
    · rcases List.mem_cons.mp member with isSign | inDigits
      · exact Or.inl isSign
      · exact Or.inr (isDigit_of_mem_toString inDigits)
  revert signOrDigit
  decide

/-- A rational number as an integer or a fraction; `str` of a whole decimal. -/
def fractionText (value : Rat) : String :=
  if value.den = 1 then
    toString value.num
  else
    toString value.num ++ "/" ++ toString value.den

/-- The text of a rational number determines it. -/
theorem fractionText_injective : Function.Injective fractionText := by
  intro first second same
  have numerators :
      ∀ value : Rat,
        (fractionText value).toList.takeWhile (· ≠ '/') =
          (toString value.num).toList := by
    intro value
    have noBar :
        ∀ char ∈ (toString value.num).toList,
          decide (char ≠ '/') = true := by
      intro char member
      have noSlash := slash_notMem_toString_int value.num
      exact decide_eq_true (ne_of_mem_of_not_mem member noSlash)
    unfold fractionText
    split
    · exact List.takeWhile_eq_self_iff.mpr noBar
    · rw [String.append_assoc, String.toList_append,
        List.takeWhile_append_of_pos noBar]
      simp
  have sameNum : first.num = second.num := by
    apply toString_int_injective
    rw [← numerators, ← numerators, same]
  have sameDen : first.den = second.den := by
    unfold fractionText at same
    rw [sameNum] at same
    split at same
    · next firstWhole =>
        split at same
        · next secondWhole => rw [firstWhole, secondWhole]
        · simp [← String.toList_inj] at same
    · split at same
      · simp [← String.toList_inj] at same
      · simp only [← String.toList_inj, String.toList_append,
          List.append_cancel_left_eq] at same
        exact toString_injective (String.toList_inj.mp same)
  exact Rat.ext sameNum sameDen

/-- The digit limit of `int`. -/
def maxIntDigits : Nat :=
  4300

/-- `Decimal(...)` of a string of digits and points; `none` is a failure. -/
def decimalOfNumeral? (numeral : List Char) : Option Rat :=
  let whole := numeral.takeWhile (· ≠ '.')
  match numeral.dropWhile (· ≠ '.') with
  | [] =>
      if whole = [] then
        none
      else
        (digitsValue? whole).map fun value : Nat => (value : Rat)
  | _ :: fraction =>
      if whole = [] ∧ fraction = [] then
        none
      else
        (digitsValue? (whole ++ fraction)).map
          fun value : Nat => (value : Rat) / (10 : Rat) ^ fraction.length

/-- A numeral with a digit and at most one point. -/
def IsPlainNumeral (numeral : List Char) : Prop :=
  numeral.count '.' ≤ 1 ∧ ∃ char ∈ numeral, char ≠ '.'

instance decidableIsPlainNumeral (numeral : List Char) :
    Decidable (IsPlainNumeral numeral) :=
  @instDecidableAnd _ _ (inferInstanceAs (Decidable (_ ≤ _)))
    (List.decidableBEx _ numeral)

/-- Digits have a value, and only digits have one. -/
theorem digitsValue?_isSome_iff (digits : List Char) :
    (digitsValue? digits).isSome = true ↔
      ∀ char ∈ digits, isDigit char = true := by
  have fromAny :
      ∀ value : Nat,
        (digits.foldlM (fun value char => do
          let digit ← digitValue? char
          return value * 10 + digit) value : Option Nat).isSome = true ↔
            ∀ char ∈ digits, isDigit char = true := by
    induction digits with
    | nil =>
        simp
    | cons char rest inductionHypothesis =>
        intro value
        rw [List.foldlM_cons, List.forall_mem_cons, isDigit]
        cases known : digitValue? char with
        | none =>
            simp
        | some digit =>
            simpa using inductionHypothesis (value * 10 + digit)
  exact fromAny 0

theorem isDigit_point : isDigit '.' = false := by
  decide

/-- A symbol of a numeral that is not the point is a digit. -/
theorem isDigit_of_ne_point
    {char : Char}
    (symbol : isNumeralChar char = true)
    (notPoint : char ≠ '.') :
    isDigit char = true := by
  simpa [isNumeralChar, notPoint] using symbol

/-- Among symbols of a numeral, being all digits is having no point. -/
theorem all_isDigit_iff
    {text : List Char}
    (symbols : ∀ char ∈ text, isNumeralChar char = true) :
    (∀ char ∈ text, isDigit char = true) ↔ '.' ∉ text := by
  constructor
  · intro digits point
    have impossible := digits _ point
    rw [isDigit_point] at impossible
    cases impossible
  · intro noPoint char member
    apply isDigit_of_ne_point (symbols char member)
    intro isPoint
    subst isPoint
    exact noPoint member

/-- Without a point a numeral is plain unless it is empty. -/
theorem isPlainNumeral_of_no_point
    {whole : List Char}
    (noPoint : '.' ∉ whole) :
    IsPlainNumeral whole ↔ whole ≠ [] := by
  rw [IsPlainNumeral, List.count_eq_zero.mpr noPoint]
  constructor
  · intro plain empty
    obtain ⟨_, char, member, _⟩ := plain
    subst empty
    cases member
  · intro nonempty
    obtain ⟨char, member⟩ := List.exists_mem_of_ne_nil whole nonempty
    exact ⟨Nat.zero_le 1, char, member, ne_of_mem_of_not_mem member noPoint⟩

/-- With a point a numeral is plain if no other follows and a digit is there. -/
theorem isPlainNumeral_append_point
    {whole fraction : List Char}
    (noPoint : '.' ∉ whole) :
    IsPlainNumeral (whole ++ '.' :: fraction) ↔
      '.' ∉ fraction ∧ ¬ (whole = [] ∧ fraction = []) := by
  have countIff :
      (whole ++ '.' :: fraction).count '.' ≤ 1 ↔ '.' ∉ fraction := by
    rw [List.count_append, List.count_eq_zero.mpr noPoint,
      List.count_cons_self, Nat.zero_add, Nat.succ_le_succ_iff,
      Nat.le_zero, List.count_eq_zero]
  rw [IsPlainNumeral, countIff]
  apply and_congr_right
  intro noMore
  constructor
  · intro hasDigit bare
    rw [bare.1, bare.2] at hasDigit
    simp at hasDigit
  · intro notBare
    -- The digit stands before the point if anything does, else after it.
    by_cases noWhole : whole = []
    · have hasFraction : fraction ≠ [] :=
        fun noFraction => notBare ⟨noWhole, noFraction⟩
      obtain ⟨char, member⟩ := List.exists_mem_of_ne_nil fraction hasFraction
      exact ⟨char,
        List.mem_append_right _ (List.mem_cons_of_mem _ member),
        ne_of_mem_of_not_mem member noMore⟩
    · obtain ⟨char, member⟩ := List.exists_mem_of_ne_nil whole noWhole
      exact ⟨char, List.mem_append_left _ member,
        ne_of_mem_of_not_mem member noPoint⟩

/-- `Decimal` accepts exactly the plain numerals. -/
theorem decimalOfNumeral?_isSome_iff
    {numeral : List Char}
    (symbols : ∀ char ∈ numeral, isNumeralChar char = true) :
    (decimalOfNumeral? numeral).isSome = true ↔ IsPlainNumeral numeral := by
  have split :
      numeral.takeWhile (· ≠ '.') ++ numeral.dropWhile (· ≠ '.') =
        numeral :=
    List.takeWhile_append_dropWhile
  have wholePlain : '.' ∉ numeral.takeWhile (· ≠ '.') := by
    intro point
    simpa using List.mem_takeWhile_imp point
  have restStarts :
      ∀ char rest, numeral.dropWhile (· ≠ '.') = char :: rest →
        char = '.' := by
    intro char rest shape
    have refused :=
      List.head?_dropWhile_not (fun char => decide (char ≠ '.')) numeral
    rw [shape] at refused
    simpa using refused
  simp only [decimalOfNumeral?]
  generalize numeral.takeWhile (· ≠ '.') = whole at split wholePlain
  generalize numeral.dropWhile (· ≠ '.') = rest at split restStarts
  subst split
  have wholeDigits : ∀ char ∈ whole, isDigit char = true :=
    (all_isDigit_iff fun char member =>
      symbols char (List.mem_append_left _ member)).mpr wholePlain
  cases rest with
  | nil =>
      rw [List.append_nil, isPlainNumeral_of_no_point wholePlain]
      by_cases empty : whole = []
      · simp [empty]
      · have known := (digitsValue?_isSome_iff whole).mpr wholeDigits
        simp only [if_neg empty, Option.isSome_map, known]
        exact iff_of_true trivial empty
  | cons point fraction =>
      have isPoint := restStarts point fraction rfl
      subst isPoint
      have fractionSymbols :
          ∀ char ∈ fraction, isNumeralChar char = true := by
        intro char member
        exact symbols char
          (List.mem_append_right _ (List.mem_cons_of_mem _ member))
      have digitsIff :
          (digitsValue? (whole ++ fraction)).isSome = true ↔
            '.' ∉ fraction := by
        rw [digitsValue?_isSome_iff, ← all_isDigit_iff fractionSymbols,
          List.forall_mem_append]
        exact and_iff_right wholeDigits
      rw [isPlainNumeral_append_point wholePlain]
      dsimp only
      by_cases bare : whole = [] ∧ fraction = []
      · simp [bare]
      · rw [if_neg bare, Option.isSome_map, digitsIff]
        exact (and_iff_left bare).symm

end PythonText
