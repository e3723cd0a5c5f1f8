import SafeSignalTrader.LineBasedFormat
import SafeSignalTrader.WordFolding

/-!
# Layout and letter case

The documented format is case-insensitive and white-space tolerant.  The parser
is so on every text: what it makes of one depends on the upper case of its
words and on which of them share a line, and on nothing else but the hash of
the text.
-/

namespace SafeSignalTrader

open BacktrackingRegex PythonText Pattern

namespace GenericStructuredParser

section Characters

/-- The letters and the two other characters that have another upper case. -/
theorem upper_cases (char : Char) :
    (char.isAlpha = true ∧ char.toUpper.isAlpha = true ∧
        upper char = char.toUpper) ∨
      (char = Char.ofNat 0x131 ∧ upper char = 'I') ∨
        (char = Char.ofNat 0x17F ∧ upper char = 'S') ∨
          upper char = char := by
  by_cases isLower : 97 ≤ char.toNat ∧ char.toNat ≤ 122
  · have size := toNat_toUpper_of_lower isLower
    have alpha : char.isAlpha = true := by
      unfold Char.isAlpha Char.isLower
      simp only [Bool.or_eq_true, Bool.and_eq_true, decide_eq_true_eq]
      exact Or.inr isLower
    have raised : char.toUpper.isUpper = true := by
      have low : 65 ≤ char.toUpper.toNat := by omega
      have high : char.toUpper.toNat ≤ 90 := by omega
      unfold Char.isUpper
      rw [decide_eq_true_eq]
      exact ⟨low, high⟩
    refine Or.inl ⟨alpha, ?_, upper_of_isAlphanum ?_⟩
    · unfold Char.isAlpha
      rw [raised, Bool.true_or]
    · simp [Char.isAlphanum, alpha]
  · have notLower : ¬ ('a' ≤ char ∧ char ≤ 'z') := isLower
    by_cases dotless : char.toNat = 0x131
    · have same : char = Char.ofNat 0x131 := by
        rw [← dotless, Char.ofNat_toNat]
      exact Or.inr (Or.inl ⟨same, by rw [same]; rfl⟩)
    · by_cases long : char.toNat = 0x17F
      · have same : char = Char.ofNat 0x17F := by
          rw [← long, Char.ofNat_toNat]
        exact Or.inr (Or.inr (Or.inl ⟨same, by rw [same]; rfl⟩))
      · refine Or.inr (Or.inr (Or.inr ?_))
        rw [upper, if_neg notLower, if_neg dotless, if_neg long]

/-- A kind of characters that does not tell letters from their capitals. -/
theorem keptBy_upper
    {accepts : Char → Bool}
    (letters : ∀ char : Char, char.isAlpha = true →
      char.toUpper.isAlpha = true → accepts char.toUpper = accepts char)
    (dotless : accepts 'I' = accepts (Char.ofNat 0x131))
    (long : accepts 'S' = accepts (Char.ofNat 0x17F)) :
    KeptBy upper accepts := by
  intro char
  rcases upper_cases char with
    ⟨alpha, capital, raised⟩ | ⟨same, raised⟩ | ⟨same, raised⟩ | raised
  · rw [raised, letters char alpha capital]
  · rw [raised, same, dotless]
  · rw [raised, same, long]
  · rw [raised]

/-- A kind without letters does not tell letters from their capitals. -/
theorem keptBy_upper_of_no_letter
    {accepts : Char → Bool}
    (noLetter : ∀ char : Char, char.isAlpha = true → accepts char = false)
    (dotless : accepts (Char.ofNat 0x131) = false)
    (long : accepts (Char.ofNat 0x17F) = false) :
    KeptBy upper accepts :=
  keptBy_upper
    (fun char alpha capital =>
      (noLetter char.toUpper capital).trans (noLetter char alpha).symm)
    ((noLetter 'I' rfl).trans dotless.symm)
    ((noLetter 'S' rfl).trans long.symm)

/-- Upper case keeps what is of a kind without letters. -/
theorem upper_of_no_letter
    {accepts : Char → Bool}
    (noLetter : ∀ char : Char, char.isAlpha = true → accepts char = false)
    (dotless : accepts (Char.ofNat 0x131) = false)
    (long : accepts (Char.ofNat 0x17F) = false)
    {char : Char}
    (accepted : accepts char = true) :
    upper char = char := by
  rcases upper_cases char with
    ⟨alpha, _, _⟩ | ⟨same, _⟩ | ⟨same, _⟩ | raised
  · rw [noLetter char alpha] at accepted
    cases accepted
  · rw [same, dotless] at accepted
    cases accepted
  · rw [same, long] at accepted
    cases accepted
  · exact raised

theorem isNumeralChar_upper : KeptBy upper isNumeralChar :=
  keptBy_upper_of_no_letter (fun _ => isNumeralChar_of_isAlpha)
    (by decide) (by decide)

theorem isDigit_upper : KeptBy upper isDigit :=
  keptBy_upper_of_no_letter (fun _ => isDigit_of_isAlpha)
    (by decide) (by decide)

theorem isAlnumIgnoreCase_upper : KeptBy upper isAlnumIgnoreCase := by
  have letter : ∀ {char : Char}, char.isAlpha = true →
      isAlnumIgnoreCase char = true := by
    intro char alpha
    exact isAlnumIgnoreCase_of_isAlphanum (by simp [Char.isAlphanum, alpha])
  exact keptBy_upper
    (fun char alpha capital => (letter capital).trans (letter alpha).symm)
    (by decide) (by decide)

/-- A symbol that is no letter is not told from anything by its case. -/
theorem isLevelIndex_upper :
    KeptBy upper fun char => '1' ≤ char && char ≤ '5' := by
  refine keptBy_upper_of_no_letter ?_ (by decide) (by decide)
  intro char alpha
  have bounds := toNat_of_isAlpha alpha
  simp only [Bool.and_eq_false_iff, decide_eq_false_iff_not]
  right
  intro small
  have low : char.toNat ≤ 53 := small
  omega

theorem isPercent_upper : KeptBy upper (· == '%') := by
  refine keptBy_upper_of_no_letter ?_ (by decide) (by decide)
  intro char alpha
  rw [beq_eq_false_iff_ne]
  rintro rfl
  cases alpha

/-- The lower case of a letter is a small letter. -/
theorem lower_of_isAlpha
    {letter : Char}
    (alpha : letter.isAlpha = true) :
    97 ≤ (lower letter).toNat ∧ (lower letter).toNat ≤ 122 := by
  rcases toNat_of_isAlpha alpha with capital | small
  · rw [lower_of_upper capital, toNat_ofNat (by omega)]
    omega
  · rw [lower_of_lower small]
    exact small

/-- A letter of a keyword stands for a character as for its capital. -/
theorem foldsTo_upper
    {letter : Char}
    (alpha : letter.isAlpha = true) :
    KeptBy upper (foldsTo letter) := by
  have small := lower_of_isAlpha alpha
  have notDotless : (Char.ofNat 0x131 == lower letter) = false := by
    rw [beq_eq_false_iff_ne]
    intro same
    rw [← same] at small
    exact absurd small (by decide)
  have notLong : (Char.ofNat 0x17F == lower letter) = false := by
    rw [beq_eq_false_iff_ne]
    intro same
    rw [← same] at small
    exact absurd small (by decide)
  refine keptBy_upper (fun char _ _ => foldsTo_toUpper letter char) ?_ ?_
  · have raised : lower 'I' = 'i' := by decide
    have kept : lower (Char.ofNat 0x131) = Char.ofNat 0x131 := by decide
    simp [foldsTo, raised, kept, notDotless, BEq.comm]
  · have raised : lower 'S' = 's' := by decide
    have kept : lower (Char.ofNat 0x17F) = Char.ofNat 0x17F := by decide
    simp [foldsTo, raised, kept, notLong, BEq.comm]

/-- The letters of a keyword. -/
theorem letterTests_upper
    {letters : String}
    (alpha : letters.toList.all Char.isAlpha = true) :
    ∀ test ∈ letterTests letters, KeptBy upper test := by
  intro test member
  obtain ⟨letter, isLetter, rfl⟩ := List.mem_map.mp member
  exact foldsTo_upper (List.all_eq_true.mp alpha letter isLetter)

end Characters

section Shapes

/-- Every test of a shape reads upper case like any other. -/
def ReadsUpper (shape : List (List (WordTest CaptureName Char))) : Prop :=
  ∀ tests ∈ shape, ∀ test ∈ tests, FoldsAlike upper test

theorem keyword_upper
    {letters : String}
    (alpha : letters.toList.all Char.isAlpha = true) :
    FoldsAlike upper (keywordTest letters) :=
  foldsAlike_letters (letterTests_upper alpha)

theorem price_upper : FoldsAlike upper priceTest :=
  (foldsAlike_kind isNumeralChar_upper).group CaptureName.price

theorem level_upper : FoldsAlike upper levelTest :=
  ((foldsAlike_symbol isLevelIndex_upper).group CaptureName.idx).prefixed
    (letterTests_upper (by decide))

theorem signalShape_upper : ReadsUpper signalShape := by
  have side : FoldsAlike upper sideTest :=
    ((keyword_upper (by decide)).either
      ((keyword_upper (by decide)).either
        ((keyword_upper (by decide)).either
          (keyword_upper (by decide))))).group CaptureName.side
  have symbol : FoldsAlike upper symbolWordTest :=
    (foldsAlike_kind isAlnumIgnoreCase_upper).group CaptureName.symbol
  have keyword : FoldsAlike upper (keywordTest "SIGNAL") :=
    keyword_upper (by decide)
  simp only [ReadsUpper, signalShape, List.forall_mem_cons,
    List.not_mem_nil, IsEmpty.forall_iff, implies_true, and_true]
  exact ⟨keyword, side, symbol⟩

theorem priceShape_upper
    {keyword : String}
    (alpha : keyword.toList.all Char.isAlpha = true) :
    ReadsUpper (priceShape keyword) := by
  simp only [ReadsUpper, priceShape, List.forall_mem_cons,
    List.not_mem_nil, IsEmpty.forall_iff, implies_true, and_true]
  exact ⟨keyword_upper alpha, price_upper⟩

theorem tpShape_upper : ReadsUpper tpShape := by
  have size : FoldsAlike upper sizeTest :=
    (foldsAlike_symbol isPercent_upper).optional.leading
      isNumeralChar_upper CaptureName.pct
  simp only [ReadsUpper, tpShape, List.forall_mem_cons,
    List.not_mem_nil, IsEmpty.forall_iff, implies_true, and_true]
  exact ⟨⟨level_upper, price_upper, size⟩, level_upper, price_upper⟩

theorem levShape_upper : ReadsUpper levShape := by
  have keyword : FoldsAlike upper leverageKeyTest :=
    (keyword_upper (by decide)).optional.prefixed
      (letterTests_upper (by decide))
  have leverage : FoldsAlike upper leverageTest :=
    (foldsAlike_kind isDigit_upper).group CaptureName.lev
  simp only [ReadsUpper, levShape, List.forall_mem_cons,
    List.not_mem_nil, IsEmpty.forall_iff, implies_true, and_true]
  exact ⟨keyword, leverage⟩

end Shapes

section Numerals

/-- Upper case keeps the value of every digit. -/
theorem digitValue?_upper (char : Char) :
    digitValue? (upper char) = digitValue? char := by
  cases digit : isDigit char with
  | true =>
      rw [upper_of_no_letter (fun _ => isDigit_of_isAlpha) (by decide)
        (by decide) digit]
  | false =>
      have raised : isDigit (upper char) = false :=
        (isDigit_upper char).trans digit
      rw [isDigit, Option.isSome_eq_false_iff, Option.isNone_iff_eq_none]
        at digit raised
      rw [digit, raised]

theorem digitsValue?_upper (digits : List Char) :
    digitsValue? (digits.map upper) = digitsValue? digits := by
  simp only [digitsValue?, List.foldlM_map, digitValue?_upper]

/-- Upper case keeps the value of every numeral. -/
theorem toDecimal_upper (numeral : List Char) :
    toDecimal (numeral.map upper) = toDecimal numeral := by
  have apart : ∀ {letter : Char}, letter.isAlpha = true →
      decide (letter ≠ '.') = true := by
    intro letter alpha
    refine decide_eq_true ?_
    rintro rfl
    cases alpha
  have kept : KeptBy upper fun char => decide (char ≠ '.') :=
    keptBy_upper
      (fun _ alpha capital => (apart capital).trans (apart alpha).symm)
      (by decide) (by decide)
  have notPoint :
      (fun char => decide (char ≠ '.')) ∘ upper =
        fun char => decide (char ≠ '.') :=
    funext kept
  simp only [toDecimal, decimalOfNumeral?, List.takeWhile_map,
    List.dropWhile_map, notPoint, List.map_eq_nil_iff]
  cases numeral.dropWhile fun char => decide (char ≠ '.') with
  | nil =>
      simp only [List.map_nil, digitsValue?_upper]
  | cons point fraction =>
      simp only [List.map_cons, ← List.map_append, digitsValue?_upper,
        List.length_map, List.map_eq_nil_iff]

end Numerals

section Matches

/-- Two matches that capture the same up to letter case. -/
def SameCaptures (first second : TextMatch) : Prop :=
  foldGroups upper first.groups = foldGroups upper second.groups

variable {first second : TextMatch}

theorem SameCaptures.group
    (same : SameCaptures first second)
    (name : CaptureName) :
    (first.group name).map (List.map upper) =
      (second.group name).map (List.map upper) := by
  have folded : ∀ found : TextMatch,
      (found.group name).map (List.map upper) =
        ((foldGroups upper found.groups).find?
          fun captured => captured.1 = name).map Prod.snd := by
    intro found
    simp only [Match.group, foldGroups, List.find?_map, Option.map_map]
    rfl
  rw [folded, folded, same]

theorem SameCaptures.capturedText
    (same : SameCaptures first second)
    (name : CaptureName) :
    (captured first name).map upper = (captured second name).map upper := by
  have groups := same.group name
  unfold captured
  revert groups
  cases first.group name <;> cases second.group name <;> simp

/-- The side word is read in any case. -/
theorem SameCaptures.side
    (same : SameCaptures first second) :
    sideOf (captured first .side) = sideOf (captured second .side) := by
  unfold sideOf
  rw [same.capturedText .side]

/-- The symbol is read in any case. -/
theorem SameCaptures.symbol
    (same : SameCaptures first second) :
    normalizeSymbol (captured first .symbol) =
      normalizeSymbol (captured second .symbol) := by
  unfold normalizeSymbol
  rw [same.capturedText .symbol]

/-- A captured price is the same. -/
theorem SameCaptures.price
    (same : SameCaptures first second) :
    toDecimal (captured first .price) =
      toDecimal (captured second .price) := by
  rw [← toDecimal_upper, same.capturedText .price, toDecimal_upper]

/-- A captured size is the same. -/
theorem SameCaptures.size
    (same : SameCaptures first second) :
    (first.group .pct).bind toDecimal =
      (second.group .pct).bind toDecimal := by
  have folded : ∀ found : TextMatch,
      (found.group .pct).bind toDecimal =
        ((found.group .pct).map (List.map upper)).bind toDecimal := by
    intro found
    cases found.group .pct with
    | none => rfl
    | some numeral => exact (toDecimal_upper numeral).symm
  rw [folded, folded, same.group .pct]

/-- Digits that a group captures are the same. -/
theorem SameCaptures.digits
    (same : SameCaptures first second)
    {name : CaptureName}
    (firstDigits : ∀ char ∈ captured first name, isDigit char = true) :
    captured first name = captured second name := by
  have raised := same.capturedText name
  have kept : ∀ {text : List Char},
      (∀ char ∈ text, isDigit char = true) → text.map upper = text := by
    intro text digits
    refine (List.map_congr_left fun char member => ?_).trans
      (List.map_id text)
    exact upper_of_no_letter (fun _ => isDigit_of_isAlpha) (by decide)
      (by decide) (digits char member)
  -- Upper case makes no digits, so the second side captured digits as well.
  have secondDigits : ∀ char ∈ captured second name, isDigit char = true := by
    intro char member
    have inFirst : upper char ∈ captured first name := by
      rw [← kept firstDigits, raised]
      exact List.mem_map_of_mem member
    rw [← isDigit_upper char]
    exact firstDigits _ inFirst
  rw [← kept firstDigits, raised, kept secondDigits]

end Matches

section Digits

/-- The captured index of a take-profit line is a digit. -/
theorem tpRe_capturesIndex :
    Pattern.Captures .idx (isDigit · = true) tpRe := by
  have percentage :
      Pattern.Captures .idx (isDigit · = true)
        (.opt (.sequence
          [someSpaces, .group .pct numeral, .opt (.one (· == '%'))])) := by
    apply Pattern.captures_sequence
    simp only [List.forall_mem_cons, List.not_mem_nil, IsEmpty.forall_iff,
      implies_true, and_true]
    exact ⟨⟨trivial, trivial⟩, ⟨nofun, trivial, trivial⟩, trivial⟩
  have index : ∀ char : Char, ('1' ≤ char && char ≤ '5') = true →
      isDigit char = true := by
    intro char inRange
    rw [Bool.and_eq_true, decide_eq_true_eq, decide_eq_true_eq] at inRange
    have low : 49 ≤ char.toNat := inRange.1
    have high : char.toNat ≤ 53 := inRange.2
    apply isDigit_of_isDigit
    unfold Char.isDigit
    rw [Bool.and_eq_true, decide_eq_true_eq, decide_eq_true_eq]
    have bounds : 48 ≤ char.toNat ∧ char.toNat ≤ 57 := by omega
    exact bounds
  apply Pattern.captures_sequence
  simp only [List.forall_mem_cons, List.not_mem_nil, IsEmpty.forall_iff,
    implies_true, and_true]
  exact ⟨trivial, trivial, word_captures _ _ "TP", ⟨fun _ => index, trivial⟩,
    ⟨trivial, trivial⟩, ⟨nofun, trivial, trivial⟩, percentage, trivial,
    trivial⟩

/-- The captured leverage consists of digits. -/
theorem levRe_captures :
    Pattern.Captures .lev (isDigit · = true) levRe := by
  apply Pattern.captures_sequence
  simp only [List.forall_mem_cons, List.not_mem_nil, IsEmpty.forall_iff,
    implies_true, and_true]
  exact ⟨trivial, trivial, word_captures _ _ "LEV",
    word_captures _ _ "ERAGE", ⟨trivial, trivial⟩,
    ⟨fun _ => ⟨fun _ accepted => accepted, fun _ accepted => accepted⟩,
      trivial, trivial⟩, trivial, trivial⟩

/-- What a group of digits captured consists of digits. -/
theorem captured_digits
    {pattern : TextPattern}
    {name : CaptureName}
    (kind : Pattern.Captures name (isDigit · = true) pattern)
    {cursor : Cursor Char}
    {found : TextMatch}
    (member : found ∈ pattern.run cursor) :
    ∀ char ∈ captured found name, isDigit char = true := by
  unfold captured
  cases captures : found.group name with
  | none =>
      intro char impossible
      cases impossible
  | some digits =>
      exact Pattern.run_captures kind member
        (Match.mem_groups_of_group captures)

end Digits

section Texts

variable {first second : List Char}

/-- Two texts with the same words in the same lines, up to letter case. -/
def SameWords (first second : List Char) : Prop :=
  foldRows upper (rowsOf lineAlphabet first) =
    foldRows upper (rowsOf lineAlphabet second)

/-- A search finds the same on both sides. -/
theorem SameWords.search
    (same : SameWords first second)
    {pattern : TextPattern}
    {shape : List (List (WordTest CaptureName Char))}
    (readsRows : ReadsRows lineAlphabet pattern shape)
    (readsUpper : ReadsUpper shape) :
    (pattern.search first = none ∧ pattern.search second = none) ∨
      ∃ firstFound secondFound,
        pattern.search first = some firstFound ∧
          pattern.search second = some secondFound ∧
            SameCaptures firstFound secondFound := by
  have alike := readsRows.search_alike readsUpper same
  revert alike
  cases pattern.search first <;> cases pattern.search second <;>
    simp [SameCaptures]

/-- The price of the first price line is the same on both sides. -/
theorem SameWords.firstPrice
    (same : SameWords first second)
    {keyword : String}
    (readsRows : ReadsRows lineAlphabet (priceLine keyword)
      (priceShape keyword))
    (alpha : keyword.toList.all Char.isAlpha = true) :
    firstPrice (priceLine keyword) first =
      firstPrice (priceLine keyword) second := by
  unfold GenericStructuredParser.firstPrice
  rcases same.search readsRows (priceShape_upper alpha) with
    ⟨noFirst, noSecond⟩ | ⟨_, _, isFirst, isSecond, captures⟩
  · rw [noFirst, noSecond]
  · rw [isFirst, isSecond]
    exact captures.price

/-- The leverage of the first leverage line is the same on both sides. -/
theorem SameWords.leverageIn
    (same : SameWords first second) :
    leverageIn first = leverageIn second := by
  unfold GenericStructuredParser.leverageIn
  rcases same.search levRe_readsRows levShape_upper with
    ⟨noFirst, noSecond⟩ | ⟨_, _, isFirst, isSecond, captures⟩
  · rw [noFirst, noSecond]
  · obtain ⟨_, firstRun⟩ := mem_run_of_search isFirst
    have sameDigits :=
      captures.digits (captured_digits levRe_captures firstRun)
    simp only [isFirst, isSecond, sameDigits]

/-- The level of a take-profit match does not depend on letter case. -/
theorem levelOf_alike
    {first second : TextMatch}
    {cursor : Cursor Char}
    (member : first ∈ tpRe.run cursor)
    (captures : SameCaptures first second) :
    levelOf first = levelOf second := by
  have sameIndex :=
    captures.digits (captured_digits tpRe_capturesIndex member)
  unfold levelOf
  rw [sameIndex, captures.price, captures.size]

/-- Matches that say the same give the same levels. -/
theorem collectLevels_alike
    {first second : List TextMatch}
    (same : List.Forall₂
      (fun left right => levelOf left = levelOf right) first second) :
    collectLevels first = collectLevels second := by
  induction same with
  | nil => rfl
  | cons alike _ inductionHypothesis =>
      rw [collectLevels, collectLevels, alike, inductionHypothesis]

/-- The take-profit levels are the same on both sides. -/
theorem SameWords.levels
    (same : SameWords first second) :
    collectLevels (tpRe.findIter first) =
      collectLevels (tpRe.findIter second) := by
  have alike := tpRe_readsRows.findIter_alike tpShape_keyed tpShape_upper same
  rw [← List.forall₂_eq_eq_eq, List.forall₂_map_left_iff,
    List.forall₂_map_right_iff] at alike
  have matched := (List.forall₂_and_left _ _).mpr
    ⟨fun _ listed => mem_run_of_findIter listed, alike⟩
  apply collectLevels_alike
  refine matched.imp ?_
  rintro left right ⟨⟨_, member⟩, captures⟩
  exact levelOf_alike member captures

/-- A search for the signal line succeeds on both sides or on none. -/
theorem SameWords.canParse
    {first second : String}
    (same : SameWords first.toList second.toList) :
    canParse first = canParse second := by
  rw [Bool.eq_iff_iff, canParse_iff, canParse_iff]
  rcases same.search signalRe_readsRows signalShape_upper with
    ⟨noFirst, noSecond⟩ | ⟨_, _, isFirst, isSecond, _⟩
  · rw [noFirst, noSecond]
  · rw [isFirst, isSecond]
    exact Iff.rfl

end Texts

section Parses

/-- A signal without the hash of its text. -/
def withoutHash (signal : NormalizedSignal) : NormalizedSignal :=
  { signal with rawHash := none }

/-- A signal without its hash and with another message id. -/
def relabelled
    (relabel : Option String → Option String)
    (signal : NormalizedSignal) : NormalizedSignal :=
  { signal with
    rawMessageId := relabel signal.rawMessageId
    rawHash := none }

variable {relabel : Option String → Option String}

/-- Neither the constraints of a signal nor its check look at its labels. -/
theorem create_relabelled
    {first second : SignalFields}
    (same :
      ({ first with
          rawMessageId := relabel first.rawMessageId
          rawHash := none } : SignalFields) =
        { second with
          rawMessageId := relabel second.rawMessageId
          rawHash := none }) :
    ((NormalizedSignal.create first).bind validate).map
        (relabelled relabel) =
      ((NormalizedSignal.create second).bind validate).map
        (relabelled relabel) := by
  have labelless : ∀ fields : SignalFields,
      ((NormalizedSignal.create fields).bind validate).map
          (relabelled relabel) =
        (NormalizedSignal.create
          { fields with
            rawMessageId := relabel fields.rawMessageId
            rawHash := none }).bind validate := by
    intro fields
    unfold NormalizedSignal.create
    by_cases accepted : NormalizedSignal.leverageErrors fields.leverage = []
    · by_cases unique :
          (fields.takeProfits.map TakeProfitLevel.index).Nodup
      · simp only [dif_pos accepted, dif_pos unique, Except.bind, validate]
        split
        · rfl
        · split
          · rfl
          · split <;> rfl
      · simp only [dif_pos accepted, dif_neg unique]
        rfl
    · simp only [dif_neg accepted]
      rfl
  rw [labelless first, labelless second, same]

/-- What `parse` makes of a text, but for the labels. -/
theorem parseMatched_alike
    {firstHashed secondHashed : PyString}
    {signalId : UUID}
    {first second sourceId : String}
    {firstId secondId : Option String}
    {firstHash secondHash : Option PyString}
    {firstFound secondFound : TextMatch}
    (same : SameWords first.toList second.toList)
    (captures : SameCaptures firstFound secondFound)
    (sameId : relabel firstId = relabel secondId) :
    (parseMatched (.ok firstHashed) signalId firstFound first sourceId
        firstId firstHash).map (relabelled relabel) =
      (parseMatched (.ok secondHashed) signalId secondFound second sourceId
        secondId secondHash).map (relabelled relabel) := by
  have entry := same.firstPrice entryRe_readsRows (by decide)
  have stop := same.firstPrice slRe_readsRows (by decide)
  obtain ⟨firstCarried, isFirst⟩ := rawHashOr_ok firstHash firstHashed
  obtain ⟨secondCarried, isSecond⟩ := rawHashOr_ok secondHash secondHashed
  simp only [parseMatched, entryRe, slRe, captures.side, captures.symbol,
    entry, stop, same.levels, same.leverageIn, isFirst, isSecond]
  cases sideOf (captured secondFound .side) with
  | error raised => rfl
  | ok side =>
      cases collectLevels (tpRe.findIter second.toList) with
      | error raised => rfl
      | ok levels =>
          cases leverageIn second.toList with
          | error raised => rfl
          | ok leverage =>
              apply create_relabelled
              simp only [sameId]
              rfl

/-- Texts of the same words are parsed alike, but for the labels. -/
theorem SameWords.parse
    {first second : String}
    (same : SameWords first.toList second.toList)
    (firstComputeHash secondComputeHash : String → String)
    (signalId : UUID)
    (sourceId : String)
    {firstId secondId : Option String}
    (sameId : relabel firstId = relabel secondId)
    (firstHash secondHash : Option PyString) :
    (GenericStructuredParser.parse firstComputeHash signalId first sourceId
        firstId firstHash).map (Option.map (relabelled relabel)) =
      (GenericStructuredParser.parse secondComputeHash signalId second
        sourceId secondId secondHash).map
          (Option.map (relabelled relabel)) := by
  unfold GenericStructuredParser.parse parseHashed
  rw [same.canParse]
  split
  · rcases same.search signalRe_readsRows signalShape_upper with
      ⟨noFirst, noSecond⟩ | ⟨_, _, isFirst, isSecond, captures⟩
    · rw [noFirst, noSecond]
    · have optional : ∀ output : Except PyException NormalizedSignal,
          (output.map some).map (Option.map (relabelled relabel)) =
            (output.map (relabelled relabel)).map some := by
        intro output
        cases output <;> rfl
      simp only [isFirst, isSecond, optional]
      exact congrArg (Except.map some)
        (parseMatched_alike same captures sameId)
  · rfl

/--
Layout and letter case are irrelevant: texts whose lines hold the same words up
to letter case, however they are indented, spaced and separated by blank lines,
are accepted alike and give the same signal or raise the same exception, but
for the hash.
-/
theorem layoutAndCaseIrrelevant
    (firstComputeHash secondComputeHash : String → String)
    (signalId : UUID)
    (first second sourceId : String)
    (messageId : Option String)
    (firstHash secondHash : Option PyString)
    (sameWords :
      foldRows upper (textRows first) = foldRows upper (textRows second)) :
    canParse first = canParse second ∧
      (parse firstComputeHash signalId first sourceId messageId
          firstHash).map (Option.map withoutHash) =
        (parse secondComputeHash signalId second sourceId messageId
          secondHash).map (Option.map withoutHash) := by
  have same : SameWords first.toList second.toList := sameWords
  have keepsId : @relabelled id = withoutHash := rfl
  rw [← keepsId]
  exact ⟨same.canParse,
    same.parse firstComputeHash secondComputeHash signalId sourceId rfl
      firstHash secondHash⟩

/-- A message in small letters, indented and spread over blank lines. -/
theorem layoutAndCaseIrrelevant_spread :
    (parse id 1 "SIGNAL LONG BTCUSDT\nTP1 66000 50%\nLEV 10"
        "src" none none).map (Option.map withoutHash) =
      (parse id 1
        "  signal\tLong  btcUsdt\n\n \n\ttp1  66000 50%  \nlev 10\n"
        "src" none none).map (Option.map withoutHash) :=
  (layoutAndCaseIrrelevant id id 1
    "SIGNAL LONG BTCUSDT\nTP1 66000 50%\nLEV 10"
    "  signal\tLong  btcUsdt\n\n \n\ttp1  66000 50%  \nlev 10\n"
    "src" none none none (by decide +kernel)).2

end Parses

end GenericStructuredParser

end SafeSignalTrader
