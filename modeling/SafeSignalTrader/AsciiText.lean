import SafeSignalTrader.PythonText

/-!
# ASCII letters and digits in Python text

What the Unicode rules of Python's `str` and `re` come to on ASCII letters and
digits.
-/

namespace PythonText

theorem toNat_of_isDigit
    {char : Char}
    (digit : char.isDigit = true) :
    48 ≤ char.toNat ∧ char.toNat ≤ 57 := by
  simp only [Char.isDigit, Bool.and_eq_true, decide_eq_true_eq] at digit
  exact digit

theorem toNat_of_isAlpha
    {char : Char}
    (alpha : char.isAlpha = true) :
    (65 ≤ char.toNat ∧ char.toNat ≤ 90) ∨
      97 ≤ char.toNat ∧ char.toNat ≤ 122 := by
  unfold Char.isAlpha Char.isUpper Char.isLower at alpha
  simp only [Bool.or_eq_true, Bool.and_eq_true, decide_eq_true_eq] at alpha
  exact alpha

theorem toNat_of_isAlphanum
    {char : Char}
    (alphanum : char.isAlphanum = true) :
    (48 ≤ char.toNat ∧ char.toNat ≤ 57) ∨
      (65 ≤ char.toNat ∧ char.toNat ≤ 90) ∨
        97 ≤ char.toNat ∧ char.toNat ≤ 122 := by
  simp only [Char.isAlphanum, Bool.or_eq_true] at alphanum
  rcases alphanum with alpha | digit
  · exact Or.inr (toNat_of_isAlpha alpha)
  · exact Or.inl (toNat_of_isDigit digit)

/-- Only the small letters have another upper case in ASCII. -/
theorem toUpper_of_not_lower
    {char : Char}
    (notLower : ¬ (97 ≤ char.toNat ∧ char.toNat ≤ 122)) :
    char.toUpper = char := by
  have outside : ¬ ('a'.val ≤ char.val ∧ char.val ≤ 'z'.val) := notLower
  unfold Char.toUpper
  rw [dif_neg outside]

theorem toNat_toUpper_of_lower
    {char : Char}
    (lower : 97 ≤ char.toNat ∧ char.toNat ≤ 122) :
    char.toUpper.toNat = char.toNat - 32 := by
  have inRange : 'a'.val ≤ char.val ∧ char.val ≤ 'z'.val := lower
  have shifted : char.toUpper.val = char.val + ('A'.val - 'a'.val) := by
    unfold Char.toUpper
    rw [dif_pos inRange]
  have size : char.val.toNat = char.toNat := rfl
  have offset : ('A'.val - 'a'.val).toNat = 4294967264 := by decide
  rw [Char.toNat, shifted, UInt32.toNat_add, offset, size]
  omega

theorem toUpper_of_lower
    {char : Char}
    (lower : 97 ≤ char.toNat ∧ char.toNat ≤ 122) :
    char.toUpper = Char.ofNat (char.toNat - 32) := by
  rw [← toNat_toUpper_of_lower lower, Char.ofNat_toNat]

/-- The upper case of a letter or digit is one. -/
theorem isAlphanum_toUpper
    {char : Char}
    (alphanum : char.isAlphanum = true) :
    char.toUpper.isAlphanum = true := by
  by_cases lower : 97 ≤ char.toNat ∧ char.toNat ≤ 122
  · have size := toNat_toUpper_of_lower lower
    have low : 65 ≤ char.toUpper.toNat := by omega
    have high : char.toUpper.toNat ≤ 90 := by omega
    have isUpper : char.toUpper.isUpper = true := by
      unfold Char.isUpper
      rw [decide_eq_true_eq]
      exact ⟨low, high⟩
    unfold Char.isAlphanum Char.isAlpha
    rw [isUpper, Bool.true_or, Bool.true_or]
  · rw [toUpper_of_not_lower lower]
    exact alphanum

/-- A character whose upper case is a letter is a letter. -/
theorem isAlpha_of_toUpper
    {char : Char}
    (alpha : char.toUpper.isAlpha = true) :
    char.isAlpha = true := by
  by_cases lower : 97 ≤ char.toNat ∧ char.toNat ≤ 122
  · have isLower : char.isLower = true := by
      unfold Char.isLower
      simp only [Bool.and_eq_true, decide_eq_true_eq]
      exact lower
    unfold Char.isAlpha
    rw [isLower, Bool.or_true]
  · rw [toUpper_of_not_lower lower] at alpha
    exact alpha

/-- A letter or digit is no white space. -/
theorem isSpace_of_isAlphanum
    {char : Char}
    (alphanum : char.isAlphanum = true) :
    isSpace char = false := by
  have bounds := toNat_of_isAlphanum alphanum
  simp only [isSpace, Bool.or_eq_false_iff, Bool.and_eq_false_iff,
    decide_eq_false_iff_not, beq_eq_false_iff_ne]
  omega

/-- Beyond the ASCII run, no run of digits starts below its end. -/
theorem decimalZeros_bounds :
    ∀ start ∈ decimalZeros.tail, 123 ≤ start := by
  decide

/-- An ASCII digit has the value that follows from its code. -/
theorem digitValue?_of_isDigit
    {char : Char}
    (digit : char.isDigit = true) :
    digitValue? char = some (char.toNat - 48) := by
  have bounds := toNat_of_isDigit digit
  have zeros : decimalZeros = 48 :: decimalZeros.tail := rfl
  rw [digitValue?, zeros, List.find?_cons_of_pos]
  · rfl
  · simp only [Bool.and_eq_true, decide_eq_true_eq]
    omega

/-- An ASCII digit is a digit. -/
theorem isDigit_of_isDigit
    {char : Char}
    (digit : char.isDigit = true) :
    isDigit char = true := by
  rw [isDigit, digitValue?_of_isDigit digit]
  rfl

/-- A letter is no digit of any script. -/
theorem isDigit_of_isAlpha
    {char : Char}
    (alpha : char.isAlpha = true) :
    isDigit char = false := by
  have bounds := toNat_of_isAlpha alpha
  have zeros : decimalZeros = 48 :: decimalZeros.tail := rfl
  have noRun :
      decimalZeros.find? (fun start =>
        decide (start ≤ char.toNat) && decide (char.toNat < start + 10)) =
          none := by
    rw [List.find?_eq_none, zeros]
    intro start member inRun
    simp only [Bool.and_eq_true, decide_eq_true_eq] at inRun
    rcases List.mem_cons.mp member with isFirst | later
    · omega
    · have large := decimalZeros_bounds start later
      omega
  rw [isDigit, digitValue?, noRun]
  rfl

theorem digits_no_space :
    (decimalZeros.all fun start => (List.range 10).all fun offset =>
      !isSpace (Char.ofNat (start + offset))) = true := by
  decide +kernel

/-- A digit of any script is no white space. -/
theorem isSpace_of_isDigit
    {char : Char}
    (digit : isDigit char = true) :
    isSpace char = false := by
  obtain ⟨value, isValue⟩ := Option.isSome_iff_exists.mp digit
  obtain ⟨start, located, _⟩ := Option.map_eq_some_iff.mp isValue
  have inRun := List.find?_some located
  simp only [Bool.and_eq_true, decide_eq_true_eq] at inRun
  have offset : char.toNat - start ∈ List.range 10 := by
    rw [List.mem_range]
    omega
  have noSpace := List.all_eq_true.mp
    (List.all_eq_true.mp digits_no_space start
      (List.mem_of_find?_eq_some located)) _ offset
  rw [Nat.add_sub_cancel' inRun.1, Char.ofNat_toNat] at noSpace
  simpa using noSpace

/-- A symbol of a numeral is no white space. -/
theorem isSpace_of_isNumeralChar
    {char : Char}
    (symbol : isNumeralChar char = true) :
    isSpace char = false := by
  simp only [isNumeralChar, Bool.or_eq_true, beq_iff_eq] at symbol
  rcases symbol with digit | rfl
  · exact isSpace_of_isDigit digit
  · decide

/-- White space is no symbol of a numeral. -/
theorem isNumeralChar_of_isSpace
    {char : Char}
    (space : isSpace char = true) :
    isNumeralChar char = false := by
  by_contra symbol
  rw [Bool.not_eq_false] at symbol
  rw [isSpace_of_isNumeralChar symbol] at space
  cases space

/-- A letter is no symbol of a numeral. -/
theorem isNumeralChar_of_isAlpha
    {char : Char}
    (alpha : char.isAlpha = true) :
    isNumeralChar char = false := by
  have notPoint : char ≠ '.' := by
    intro isPoint
    subst isPoint
    revert alpha
    decide
  rw [isNumeralChar, isDigit_of_isAlpha alpha, Bool.false_or,
    beq_eq_false_iff_ne]
  exact notPoint

/-- The upper case of ASCII letters and digits. -/
theorem upper_of_isAlphanum
    {char : Char}
    (alphanum : char.isAlphanum = true) :
    upper char = char.toUpper := by
  have bounds := toNat_of_isAlphanum alphanum
  unfold upper
  split
  · next isLower =>
      exact (toUpper_of_lower isLower).symm
  · next notLower =>
      have outside : ¬ (97 ≤ char.toNat ∧ char.toNat ≤ 122) := notLower
      rw [if_neg (by omega), if_neg (by omega), toUpper_of_not_lower outside]

theorem toNat_ofNat
    {code : Nat}
    (small : code < 0xD800) :
    (Char.ofNat code).toNat = code := by
  rw [Char.ofNat, dif_pos (Or.inl small)]
  rfl

/-- The lower case of a capital letter. -/
theorem lower_of_upper
    {char : Char}
    (upper : 65 ≤ char.toNat ∧ char.toNat ≤ 90) :
    lower char = Char.ofNat (char.toNat + 32) := by
  have inRange : 'A' ≤ char ∧ char ≤ 'Z' := upper
  rw [lower, if_pos inRange]

theorem lower_of_lower
    {char : Char}
    (isLower : 97 ≤ char.toNat ∧ char.toNat ≤ 122) :
    lower char = char := by
  have notUpper : ¬ ('A' ≤ char ∧ char ≤ 'Z') := by
    intro upper
    have bound : char.toNat ≤ 90 := upper.2
    omega
  rw [lower, if_neg notUpper, if_neg (by omega), if_neg (by omega)]

/-- ASCII letters and digits are symbols of an `[A-Za-z0-9]` class. -/
theorem isAlnumIgnoreCase_of_isAlphanum
    {char : Char}
    (alphanum : char.isAlphanum = true) :
    isAlnumIgnoreCase char = true := by
  simp only [isAlnumIgnoreCase, Bool.or_eq_true, Bool.and_eq_true,
    decide_eq_true_eq]
  rcases toNat_of_isAlphanum alphanum with digit | upper | isLower
  · exact Or.inl (Or.inl (Or.inr digit))
  · have size : (lower char).toNat = char.toNat + 32 := by
      rw [lower_of_upper upper, toNat_ofNat (by omega)]
    have small : 97 ≤ (lower char).toNat ∧ (lower char).toNat ≤ 122 := by
      omega
    exact Or.inl (Or.inl (Or.inl small))
  · rw [lower_of_lower isLower]
    exact Or.inl (Or.inl (Or.inl isLower))

/-- White space has no lower case. -/
theorem lower_of_isSpace
    {char : Char}
    (space : isSpace char = true) :
    lower char = char := by
  simp only [isSpace, Bool.or_eq_true, Bool.and_eq_true, decide_eq_true_eq,
    beq_iff_eq] at space
  have notUpper : ¬ ('A' ≤ char ∧ char ≤ 'Z') := by
    intro upper
    have low : 65 ≤ char.toNat := upper.1
    have high : char.toNat ≤ 90 := upper.2
    omega
  rw [lower, if_neg notUpper, if_neg (by omega), if_neg (by omega)]

/-- White space stands for no letter. -/
theorem foldsTo_of_isSpace
    {letter char : Char}
    (alpha : letter.isAlpha = true)
    (space : isSpace char = true) :
    foldsTo letter char = false := by
  have letterLower :
      97 ≤ (lower letter).toNat ∧ (lower letter).toNat ≤ 122 := by
    rcases toNat_of_isAlpha alpha with upper | isLower
    · rw [lower_of_upper upper, toNat_ofNat (by omega)]
      omega
    · rw [lower_of_lower isLower]
      exact isLower
  have sameLower := lower_of_isSpace space
  simp only [isSpace, Bool.or_eq_true, Bool.and_eq_true, decide_eq_true_eq,
    beq_iff_eq] at space
  have differs : char ≠ lower letter := by
    intro same
    rw [← same] at letterLower
    omega
  simp only [foldsTo, sameLower, Bool.or_eq_false_iff, Bool.and_eq_false_iff,
    beq_eq_false_iff_ne]
  exact ⟨⟨differs, Or.inr (by omega)⟩, Or.inr (by omega)⟩

/-- White space is no symbol of an `[A-Za-z0-9]` class. -/
theorem isAlnumIgnoreCase_of_isSpace
    {char : Char}
    (space : isSpace char = true) :
    isAlnumIgnoreCase char = false := by
  have sameLower := lower_of_isSpace space
  simp only [isSpace, Bool.or_eq_true, Bool.and_eq_true, decide_eq_true_eq,
    beq_iff_eq] at space
  simp only [isAlnumIgnoreCase, sameLower, Bool.or_eq_false_iff,
    Bool.and_eq_false_iff, decide_eq_false_iff_not, beq_eq_false_iff_ne]
  have code : ∀ other : Char, other ≤ char ↔ other.toNat ≤ char.toNat :=
    fun _ => Iff.rfl
  have codeAbove : ∀ other : Char, char ≤ other ↔ char.toNat ≤ other.toNat :=
    fun _ => Iff.rfl
  simp only [code, codeAbove]
  have letters : 'a'.toNat = 97 ∧ 'z'.toNat = 122 ∧ '0'.toNat = 48 ∧
      '9'.toNat = 57 := by decide
  omega

/-- A pattern letter stands for both cases of a letter. -/
theorem foldsTo_toUpper (expected char : Char) :
    foldsTo expected char.toUpper = foldsTo expected char := by
  by_cases isLower : 97 ≤ char.toNat ∧ char.toNat ≤ 122
  · have size := toNat_toUpper_of_lower isLower
    have sameLower : lower char.toUpper = lower char := by
      rw [lower_of_upper (by omega), lower_of_lower isLower, size,
        Nat.sub_add_cancel (by omega), Char.ofNat_toNat]
    have noDotless :
        ∀ code : Nat, 122 < code →
          (char.toUpper.toNat == code) = (char.toNat == code) := by
      intro code large
      rw [beq_eq_false_iff_ne.mpr (by omega),
        beq_eq_false_iff_ne.mpr (by omega)]
    rw [foldsTo, sameLower, noDotless 0x131 (by omega),
      noDotless 0x17F (by omega)]
    rfl
  · rw [toUpper_of_not_lower isLower]

end PythonText
