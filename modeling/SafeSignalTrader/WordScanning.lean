import SafeSignalTrader.WordLines

/-!
# Patterns that read words

A line pattern whose parts each read a word, with gaps between them, finds in
a text what its tests read in the words of the text.  Gaps may hold line
breaks, so what is read may go over several lines.
-/

namespace BacktrackingRegex

namespace Pattern

open Match

variable {Name Symbol : Type}

section Words

variable (alphabet : LineAlphabet Symbol)

/-- A continuation that does not go on inside a word. -/
def GoesOnAtGaps
    (accept : Match Name Symbol → Option (Match Name Symbol)) : Prop :=
  ∀ found, (∃ symbol ∈ found.stop.ahead.head?,
    alphabet.isGap symbol = false) → accept found = none

/-- A pattern that reads whole words, as a test does. -/
def ReadsWord
    (pattern : Pattern Name Symbol)
    (test : WordTest Name Symbol) : Prop :=
  ∀ behind word tail (accept : Match Name Symbol → Option (Match Name Symbol)),
    (∀ symbol ∈ word, alphabet.isGap symbol = false) →
      (∀ symbol ∈ tail.head?, alphabet.isGap symbol = true) →
        GoesOnAtGaps alphabet accept →
          pattern.firstThat ⟨behind, word ++ tail⟩ accept =
            (test word).bind fun groups =>
              accept ⟨word, groups, ⟨after behind word, tail⟩⟩

/-- The test of one symbol. -/
def symbolTest (accepts : Symbol → Bool) : WordTest Name Symbol
  | [symbol] => if accepts symbol then some [] else none
  | _ => none

/-- The test of one symbol after the other. -/
def lettersTest (tests : List (Symbol → Bool)) : WordTest Name Symbol :=
  fun word =>
    if passes tests word ∧ word.length = tests.length then some [] else none

/-- The test of symbols of one kind. -/
def kindTest (accepts : Symbol → Bool) : WordTest Name Symbol :=
  fun word => if word ≠ [] ∧ word.all accepts then some [] else none

/-- The test of a group. -/
def groupTest (name : Name) (test : WordTest Name Symbol) :
    WordTest Name Symbol :=
  fun word => (test word).map fun groups => (name, word) :: groups

/-- The test of two alternatives. -/
def eitherTest (first second : WordTest Name Symbol) : WordTest Name Symbol :=
  fun word => (first word).or (second word)

/-- The test of a part that may be missing. -/
def optionalTest (test : WordTest Name Symbol) : WordTest Name Symbol :=
  fun word => if word = [] then some [] else test word

/-- The test of letters before another test. -/
def prefixTest
    (tests : List (Symbol → Bool))
    (test : WordTest Name Symbol) : WordTest Name Symbol :=
  fun word =>
    if passes tests word then test (word.drop tests.length) else none

/-- The test of a group of symbols of one kind before another test. -/
def leadingTest
    (name : Name)
    (accepts : Symbol → Bool)
    (test : WordTest Name Symbol) : WordTest Name Symbol :=
  fun word =>
    if word.takeWhile accepts = [] then none
    else (test (word.dropWhile accepts)).map fun groups =>
      (name, word.takeWhile accepts) :: groups

variable {alphabet}
variable {pattern first second inner : Pattern Name Symbol}
variable {test firstTest secondTest : WordTest Name Symbol}
variable {accepts : Symbol → Bool}
variable {tests : List (Symbol → Bool)}
variable {behind : Option Symbol}
variable {word tail : List Symbol}
variable {accept : Match Name Symbol → Option (Match Name Symbol)}

theorem readsWord_one
    (outsideGaps : ∀ symbol, accepts symbol = true →
      alphabet.isGap symbol = false) :
    ReadsWord alphabet (one accepts)
      (symbolTest accepts : WordTest Name Symbol) := by
  intro behind word tail accept solid isTail goesOn
  cases word with
  | nil =>
      cases tail with
      | nil => exact firstThat_one_nil
      | cons symbol rest =>
          have refused : accepts symbol = false := by
            cases accepted : accepts symbol with
            | false => rfl
            | true =>
                have isGap := isTail symbol rfl
                rw [outsideGaps symbol accepted] at isGap
                cases isGap
          rw [List.nil_append, firstThat_one_cons, refused]
          rfl
  | cons symbol rest =>
      rw [List.cons_append, firstThat_one_cons]
      cases rest with
      | nil =>
          rw [symbolTest]
          cases accepts symbol <;> rfl
      | cons next others =>
          have inside :
              accept (stretch behind [symbol] (next :: others ++ tail)) =
                none :=
            goesOn _ ⟨next, rfl, solid next (by simp)⟩
          rw [inside, ite_self]
          rfl

/-- A gap behind a word passes no letter test. -/
theorem passes_word
    (outsideGaps : ∀ test ∈ tests, ∀ symbol, test symbol = true →
      alphabet.isGap symbol = false)
    (isTail : ∀ symbol ∈ tail.head?, alphabet.isGap symbol = true) :
    passes tests (word ++ tail) = passes tests word := by
  induction tests generalizing word with
  | nil => rfl
  | cons test tests inductionHypothesis =>
      cases word with
      | nil =>
          cases tail with
          | nil => rfl
          | cons symbol rest =>
              have refused : test symbol = false := by
                cases passed : test symbol with
                | false => rfl
                | true =>
                    have isGap := isTail symbol rfl
                    rw [outsideGaps test List.mem_cons_self symbol passed]
                      at isGap
                    cases isGap
              simp only [List.nil_append, passes, refused, Bool.false_and]
      | cons symbol rest =>
          rw [List.cons_append, passes, passes,
            inductionHypothesis fun other member =>
              outsideGaps other (List.mem_cons_of_mem test member)]

theorem length_le_of_passes
    (passed : passes tests word = true) :
    tests.length ≤ word.length := by
  induction tests generalizing word with
  | nil => exact Nat.zero_le _
  | cons test tests inductionHypothesis =>
      cases word with
      | nil => cases passed
      | cons symbol rest =>
          simp only [passes, Bool.and_eq_true] at passed
          exact Nat.succ_le_succ (inductionHypothesis passed.2)

theorem after_drop (behind : Option Symbol) (word : List Symbol)
    (count : Nat) :
    after (after behind (word.take count)) (word.drop count) =
      after behind word := by
  rw [← after_append, List.take_append_drop]

/-- Letters are read before a pattern that reads the rest of the word. -/
theorem ReadsWord.prefixed
    (reads : ReadsWord alphabet second test)
    (outsideGaps : ∀ test ∈ tests, ∀ symbol, test symbol = true →
      alphabet.isGap symbol = false) :
    ReadsWord alphabet (seq (sequence (tests.map one)) second)
      (prefixTest tests test) := by
  intro behind word tail accept solid isTail goesOn
  rw [firstThat_seq, firstThat_word, passes_word outsideGaps isTail,
    prefixTest]
  split
  · next passed =>
      have within := length_le_of_passes passed
      rw [List.take_append_of_le_length within,
        List.drop_append_of_le_length within, stretch_stop]
      have rest :=
        reads (after behind (word.take tests.length))
          (word.drop tests.length) tail
          (fun trailing =>
            accept ((stretch behind (word.take tests.length)
              (word.drop tests.length ++ tail)).andThen trailing))
          (fun symbol member => solid symbol (List.mem_of_mem_drop member))
          isTail
          (fun found inside => goesOn _ inside)
      rw [rest]
      simp only [Match.andThen, stretch, List.nil_append,
        List.take_append_drop, after_drop]
  · rfl

theorem readsWord_letters
    (outsideGaps : ∀ test ∈ tests, ∀ symbol, test symbol = true →
      alphabet.isGap symbol = false) :
    ReadsWord alphabet (sequence (tests.map one))
      (lettersTest tests : WordTest Name Symbol) := by
  intro behind word tail accept solid isTail goesOn
  rw [firstThat_word, passes_word outsideGaps isTail, lettersTest]
  by_cases passed : passes tests word = true
  · have within := length_le_of_passes passed
    rw [if_pos passed, List.take_append_of_le_length within,
      List.drop_append_of_le_length within]
    by_cases whole : word.length = tests.length
    · rw [if_pos ⟨passed, whole⟩, ← whole, List.take_length,
        List.drop_length]
      rfl
    · rw [if_neg (fun both => whole both.2)]
      cases rest : word.drop tests.length with
      | nil =>
          have short := List.drop_eq_nil_iff.mp rest
          exact absurd (Nat.le_antisymm short within) whole
      | cons symbol others =>
          apply goesOn
          refine ⟨symbol, rfl, solid symbol ?_⟩
          apply List.mem_of_mem_drop (i := tests.length)
          rw [rest]
          exact List.mem_cons_self
  · rw [if_neg passed, if_neg (fun both => passed both.1)]
    rfl

theorem ReadsWord.group
    (reads : ReadsWord alphabet inner test)
    (name : Name) :
    ReadsWord alphabet (.group name inner) (groupTest name test) := by
  intro behind word tail accept solid isTail goesOn
  have captured :=
    reads behind word tail (fun found => accept (found.captured name))
      solid isTail (fun found inside => goesOn _ inside)
  rw [firstThat_group, captured, groupTest]
  cases test word <;> rfl

theorem ReadsWord.alt
    (readsFirst : ReadsWord alphabet first firstTest)
    (readsSecond : ReadsWord alphabet second secondTest)
    (apart : ∀ word, firstTest word = none ∨ secondTest word = none) :
    ReadsWord alphabet (.alt first second)
      (eitherTest firstTest secondTest) := by
  intro behind word tail accept solid isTail goesOn
  rw [firstThat_alt,
    readsFirst behind word tail accept solid isTail goesOn,
    readsSecond behind word tail accept solid isTail goesOn, eitherTest]
  rcases apart word with refused | refused
  · rw [refused, Option.none_or]
    exact Option.none_or
  · rw [refused, Option.or_none]
    exact Option.or_none

theorem ReadsWord.opt
    (reads : ReadsWord alphabet inner test)
    (nonempty : test [] = none) :
    ReadsWord alphabet (.opt inner) (optionalTest test) := by
  intro behind word tail accept solid isTail goesOn
  rw [firstThat_opt, reads behind word tail accept solid isTail goesOn,
    optionalTest]
  cases word with
  | nil =>
      rw [nonempty, if_pos rfl]
      exact Option.none_or
  | cons symbol rest =>
      have inside :
          accept (still ⟨behind, symbol :: rest ++ tail⟩) = none :=
        goesOn _ ⟨symbol, rfl, solid symbol List.mem_cons_self⟩
      rw [inside, Option.or_none, if_neg (List.cons_ne_nil symbol rest)]

/-- Where a repetition in a word can only go on behind its last symbol. -/
theorem firstThat_oneOrMore_word
    (outsideGaps : ∀ symbol, accepts symbol = true →
      alphabet.isGap symbol = false)
    (isTail : ∀ symbol ∈ tail.head?, alphabet.isGap symbol = true)
    (shorter : ∀ before symbol others,
      word = before ++ symbol :: others → accepts symbol = true →
        accept (stretch behind before (symbol :: others ++ tail)) = none) :
    (oneOrMore accepts).firstThat ⟨behind, word ++ tail⟩ accept =
      if word.takeWhile accepts = [] then none
      else accept (stretch behind (word.takeWhile accepts)
        (word.dropWhile accepts ++ tail)) := by
  have inside :
      ∀ symbol ∈ word.takeWhile accepts, accepts symbol = true :=
    fun symbol member => List.all_eq_true.mp List.all_takeWhile symbol member
  have stops :
      ∀ symbol ∈ (word.dropWhile accepts ++ tail).head?,
        accepts symbol = false := by
    intro symbol isHead
    cases rest : word.dropWhile accepts with
    | nil =>
        rw [rest, List.nil_append] at isHead
        cases accepted : accepts symbol with
        | false => rfl
        | true =>
            have isGap := isTail symbol isHead
            rw [outsideGaps symbol accepted] at isGap
            cases isGap
    | cons first others =>
        rw [rest, List.cons_append, List.head?_cons, Option.mem_some_iff]
          at isHead
        rw [← isHead]
        have refused :=
          List.head_dropWhile_not accepts
            (by simp [rest] : word.dropWhile accepts ≠ [])
        simpa [rest] using refused
  have parted :
      word ++ tail =
        word.takeWhile accepts ++ (word.dropWhile accepts ++ tail) := by
    rw [← List.append_assoc, List.takeWhile_append_dropWhile]
  rw [parted]
  split
  · next empty =>
      rw [empty, List.nil_append]
      exact firstThat_oneOrMore_stop stops
  · next nonempty =>
      apply firstThat_oneOrMore_greedy nonempty inside stops
      intro before symbol others shape
      have accepted : accepts symbol = true := by
        apply inside
        rw [shape]
        exact List.mem_append_right before List.mem_cons_self
      have whole :
          word = before ++ symbol :: (others ++ word.dropWhile accepts) := by
        calc
          word = word.takeWhile accepts ++ word.dropWhile accepts :=
            (List.takeWhile_append_dropWhile).symm
          _ = before ++ symbol :: (others ++ word.dropWhile accepts) := by
            rw [shape]
            simp
      have refused := shorter before symbol _ whole accepted
      simpa using refused

theorem readsWord_oneOrMore
    (outsideGaps : ∀ symbol, accepts symbol = true →
      alphabet.isGap symbol = false) :
    ReadsWord alphabet (oneOrMore accepts)
      (kindTest accepts : WordTest Name Symbol) := by
  intro behind word tail accept solid isTail goesOn
  rw [firstThat_oneOrMore_word outsideGaps isTail, kindTest]
  · cases rest : word.dropWhile accepts with
    | nil =>
        have all : word.takeWhile accepts = word := by
          have parted :=
            @List.takeWhile_append_dropWhile Symbol accepts word
          rwa [rest, List.append_nil] at parted
        have inside : word.all accepts = true := by
          rw [← all]
          exact List.all_takeWhile
        rw [all]
        by_cases empty : word = []
        · rw [if_pos empty, if_neg (fun both => both.1 empty)]
          rfl
        · rw [if_neg empty, if_pos ⟨empty, inside⟩]
          rfl
    | cons symbol others =>
        have isMember : symbol ∈ word := by
          rw [← @List.takeWhile_append_dropWhile Symbol accepts word, rest]
          exact List.mem_append_right _ List.mem_cons_self
        have refused : accepts symbol = false := by
          have stops :=
            List.head_dropWhile_not accepts
              (by simp [rest] : word.dropWhile accepts ≠ [])
          simpa [rest] using stops
        have notAll : ¬ (word ≠ [] ∧ word.all accepts = true) := by
          rintro ⟨_, all⟩
          rw [List.all_eq_true.mp all symbol isMember] at refused
          cases refused
        rw [if_neg notAll]
        split
        · rfl
        · exact goesOn _ ⟨symbol, rfl, solid symbol isMember⟩
  · intro before symbol others shape _
    apply goesOn
    refine ⟨symbol, rfl, solid symbol ?_⟩
    rw [shape]
    exact List.mem_append_right before List.mem_cons_self

/-- A group of symbols of one kind is read before the rest of the word. -/
theorem ReadsWord.leading
    (reads : ReadsWord alphabet second test)
    (outsideGaps : ∀ symbol, accepts symbol = true →
      alphabet.isGap symbol = false)
    (refuses : ∀ symbol rest, accepts symbol = true →
      test (symbol :: rest) = none)
    (name : Name) :
    ReadsWord alphabet (seq (.group name (oneOrMore accepts)) second)
      (leadingTest name accepts test) := by
  intro behind word tail accept solid isTail goesOn
  have onwards :
      ∀ before rest, word = before ++ rest →
        (second.firstThat ⟨after behind before, rest ++ tail⟩
          fun trailing =>
            accept (Match.andThen
              ⟨before, [(name, before)],
                ⟨after behind before, rest ++ tail⟩⟩ trailing)) =
          (test rest).bind fun groups =>
            accept ⟨word, (name, before) :: groups,
              ⟨after behind word, tail⟩⟩ := by
    intro before rest shape
    have restSolid :
        ∀ symbol ∈ rest, alphabet.isGap symbol = false := by
      intro symbol member
      apply solid
      rw [shape]
      exact List.mem_append_right before member
    have onRest :=
      reads (after behind before) rest tail
        (fun trailing =>
          accept (Match.andThen
            ⟨before, [(name, before)],
              ⟨after behind before, rest ++ tail⟩⟩ trailing))
        restSolid isTail (fun found inside => goesOn _ inside)
    rw [onRest]
    simp only [Match.andThen, shape, after_append, List.singleton_append]
  rw [firstThat_seq, firstThat_group,
    firstThat_oneOrMore_word outsideGaps isTail, leadingTest]
  · split
    · rfl
    · have rest :=
        onwards (word.takeWhile accepts) (word.dropWhile accepts)
          (List.takeWhile_append_dropWhile).symm
      rw [Option.bind_map]
      exact rest
  · intro before symbol others shape accepted
    have refused := onwards before (symbol :: others) shape
    rw [refuses symbol others accepted] at refused
    exact refused

end Words

section Sequences

variable (alphabet : LineAlphabet Symbol)

/-- Where a match has stopped: at a line end, before the words that are left. -/
structure StopsBefore
    (text : List Symbol)
    (words : List (LineWord Symbol))
    (taken left rest : List Symbol) : Prop where
  shape : text = taken ++ (left ++ rest)
  inside : ∀ symbol ∈ left, alphabet.isGap symbol = true
  laid : Laid alphabet words rest
  atBreak : ∀ symbol ∈ (left ++ rest).head?, alphabet.isBreak symbol = true

/-- What a reading of words says about a match. -/
def MatchesReading
    (behind : Option Symbol)
    (text : List Symbol)
    (words : List (LineWord Symbol))
    (reading : Option (List (Name × List Symbol) × Nat))
    (result : Option (Match Name Symbol)) : Prop :=
  match reading with
  | none => result = none
  | some (groups, count) =>
      ∃ taken left rest,
        StopsBefore alphabet text (words.drop count) taken left rest ∧
          result =
            some ⟨taken, groups, ⟨after behind taken, left ++ rest⟩⟩

/-- Parts behind a word that read the words after it. -/
structure ReadsOnwards
    (patterns : List (Pattern Name Symbol))
    (shape : List (List (WordTest Name Symbol))) : Prop where
  refusesWord : ∀ behind symbol rest, alphabet.isGap symbol = false →
    (sequence patterns).matchAt ⟨behind, symbol :: rest⟩ = none
  reads : ∀ behind gap endsLine words text,
    EndsWord alphabet gap endsLine words → Laid alphabet words text →
      MatchesReading alphabet behind (gap ++ text) words
        (readShape shape endsLine words)
        ((sequence patterns).matchAt ⟨behind, gap ++ text⟩)

/-- A pattern that reads words from the first of a line on. -/
structure ReadsLines
    (core : Pattern Name Symbol)
    (shape : List (List (WordTest Name Symbol))) : Prop where
  refusesGap : ∀ behind symbol rest, alphabet.isGap symbol = true →
    core.matchAt ⟨behind, symbol :: rest⟩ = none
  refusesEnd : ∀ behind, core.matchAt ⟨behind, []⟩ = none
  reads : ∀ behind words text, Laid alphabet words text →
    MatchesReading alphabet behind text words (readShape shape false words)
      (core.matchAt ⟨behind, text⟩)

variable {alphabet}
variable {first second inner core : Pattern Name Symbol}
variable {patterns : List (Pattern Name Symbol)}
variable {test : WordTest Name Symbol}
variable {shape : List (List (WordTest Name Symbol))}
variable {behind : Option Symbol}
variable {text : List Symbol}
variable {words : List (LineWord Symbol)}

theorem MatchesReading.or
    {reading other : Option (List (Name × List Symbol) × Nat)}
    {result otherwise : Option (Match Name Symbol)}
    (outcome :
      MatchesReading alphabet behind text words reading result)
    (fallback :
      MatchesReading alphabet behind text words other otherwise) :
    MatchesReading alphabet behind text words (reading.or other)
      (result.or otherwise) := by
  cases reading with
  | none =>
      have refused : result = none := outcome
      rw [refused, Option.none_or, Option.none_or]
      exact fallback
  | some found =>
      obtain ⟨taken, left, rest, stops, isResult⟩ := outcome
      rw [isResult, Option.some_or, Option.some_or]
      exact ⟨taken, left, rest, stops, rfl⟩

/-- A word, and the gap before it, in front of what is matched. -/
theorem MatchesReading.lead
    {word : LineWord Symbol}
    {reading : Option (List (Name × List Symbol) × Nat)}
    {result : Option (Match Name Symbol)}
    (lead : List Symbol)
    (groups : List (Name × List Symbol))
    (outcome :
      MatchesReading alphabet (after behind lead) text words reading
        result) :
    MatchesReading alphabet behind (lead ++ text) (word :: words)
      (reading.map fun read => (groups ++ read.1, read.2 + 1))
      (result.map
        (Match.andThen ⟨lead, groups, ⟨after behind lead, text⟩⟩)) := by
  cases reading with
  | none =>
      have refused : result = none := outcome
      rw [refused]
      rfl
  | some read =>
      obtain ⟨taken, left, rest, stops, isResult⟩ := outcome
      refine ⟨lead ++ taken, left, rest, ?_, ?_⟩
      · refine ⟨?_, stops.inside, stops.laid, stops.atBreak⟩
        rw [stops.shape, List.append_assoc]
      · rw [isResult, after_append]
        rfl

theorem matchAt_sequence_cons {cursor : Cursor Symbol} :
    (sequence (first :: patterns)).matchAt cursor =
      first.firstThat cursor fun leading =>
        ((sequence patterns).matchAt leading.stop).map leading.andThen := by
  rw [matchAt_eq_firstThat, firstThat_sequence_cons]
  simp only [firstThat_some]

/-- A part that reads a word, before parts that refuse to go on inside it. -/
theorem ReadsWord.matchAt_sequence
    (reads : ReadsWord alphabet first test)
    (refuses : ∀ behind symbol rest, alphabet.isGap symbol = false →
      (sequence patterns).matchAt ⟨behind, symbol :: rest⟩ = none)
    {word tail : List Symbol}
    (solid : ∀ symbol ∈ word, alphabet.isGap symbol = false)
    (isTail : ∀ symbol ∈ tail.head?, alphabet.isGap symbol = true) :
    (sequence (first :: patterns)).matchAt ⟨behind, word ++ tail⟩ =
      (test word).bind fun groups =>
        ((sequence patterns).matchAt ⟨after behind word, tail⟩).map
          (Match.andThen ⟨word, groups, ⟨after behind word, tail⟩⟩) := by
  rw [matchAt_sequence_cons]
  apply reads behind word tail _ solid isTail
  rintro ⟨taken, groups, ⟨before, ahead⟩⟩ ⟨symbol, isHead, isSolid⟩
  obtain ⟨rest, rfl⟩ := List.head?_eq_some_iff.mp isHead
  dsimp only
  rw [refuses before symbol rest isSolid]
  rfl

/-- Where no word starts, a part that reads a word fails. -/
theorem ReadsWord.refuses
    (reads : ReadsWord alphabet first test)
    (nonempty : test [] = none)
    (refuses : ∀ behind symbol rest, alphabet.isGap symbol = false →
      (sequence patterns).matchAt ⟨behind, symbol :: rest⟩ = none)
    {tail : List Symbol}
    (isTail : ∀ symbol ∈ tail.head?, alphabet.isGap symbol = true) :
    (sequence (first :: patterns)).matchAt ⟨behind, tail⟩ = none := by
  have matched :=
    @ReadsWord.matchAt_sequence Name Symbol alphabet first patterns test
      behind reads refuses [] tail (by simp) isTail
  rw [nonempty] at matched
  exact matched

/-- No symbol outside of gaps breaks a line. -/
theorem solid_unbroken
    {word : List Symbol}
    (solid : ∀ symbol ∈ word, alphabet.isGap symbol = false) :
    ∀ symbol ∈ word, alphabet.isBreak symbol = false := by
  intro symbol member
  cases isBreak : alphabet.isBreak symbol with
  | false => rfl
  | true =>
      have isSolid := solid symbol member
      rw [alphabet.gapOfBreak symbol isBreak] at isSolid
      cases isSolid

theorem matchAt_lineEnd {cursor : Cursor Symbol} :
    (sequence [lineEnd alphabet.isBreak] : Pattern Name Symbol).matchAt
        cursor =
      if cursor.ahead.head?.all alphabet.isBreak then some (still cursor)
      else none := by
  rw [matchAt_eq_firstThat, firstThat_lineEnd]

/-- No line ends before a word. -/
theorem lineEnd_refusesWord
    {symbol : Symbol}
    (solid : alphabet.isGap symbol = false)
    (behind : Option Symbol)
    (rest : List Symbol) :
    (sequence [lineEnd alphabet.isBreak] : Pattern Name Symbol).matchAt
      ⟨behind, symbol :: rest⟩ = none := by
  have unbroken : alphabet.isBreak symbol = false :=
    solid_unbroken (by simpa using solid) symbol
      (List.mem_singleton_self symbol)
  rw [matchAt_lineEnd, if_neg (by simp [unbroken])]

/-- Between two words of a line the line does not end. -/
theorem lineEnd_refuses
    {gap : List Symbol}
    (follows : EndsWord alphabet gap false words)
    (laid : Laid alphabet words text)
    (behind : Option Symbol) :
    (sequence [.many alphabet.isGap, lineEnd alphabet.isBreak] :
      Pattern Name Symbol).matchAt ⟨behind, gap ++ text⟩ = none := by
  have goesOn :
      ¬ (words = [] ∨ ∃ symbol ∈ gap, alphabet.isBreak symbol = true) :=
    mt follows.ends.mpr Bool.false_ne_true
  push Not at goesOn
  rw [matchAt_sequence_cons,
    firstThat_many_greedy follows.inside laid.head_solid]
  · obtain ⟨symbol, letters, rfl, solid⟩ := laid.exists_head goesOn.1
    rw [stretch_stop, lineEnd_refusesWord solid]
    rfl
  · intro before symbol others shape
    have unbroken : ¬ alphabet.isBreak symbol = true := by
      apply goesOn.2
      rw [shape]
      exact List.mem_append_right before List.mem_cons_self
    rw [stretch_stop, matchAt_lineEnd, if_neg (by simp [unbroken])]
    rfl

/-- The end of a line, after the white space up to it. -/
theorem readsOnwards_lineEnd :
    ReadsOnwards alphabet
      [.many alphabet.isGap, lineEnd alphabet.isBreak]
      ([[]] : List (List (WordTest Name Symbol))) := by
  constructor
  · intro behind symbol rest solid
    rw [matchAt_sequence_cons,
      firstThat_many_stop (by simpa using solid), stretch_stop,
      lineEnd_refusesWord solid]
    rfl
  · intro behind gap endsLine words text follows laid
    cases endsLine with
    | false => exact lineEnd_refuses follows laid behind
    | true =>
        have separated :
            text = [] ∨ ∃ symbol ∈ gap, alphabet.isBreak symbol = true := by
          rcases follows.ends.mp rfl with noWords | breaks
          · subst noWords
            cases laid
            exact Or.inl rfl
          · exact Or.inr breaks
        obtain ⟨before, left, shape, atBreak, found⟩ :=
          @readsLine_gap Name Symbol alphabet gap text follows.inside
            laid.head_solid separated behind
        refine ⟨before, left, text, ⟨?_, ?_, laid, atBreak⟩, found⟩
        · rw [shape, List.append_assoc]
        · intro symbol member
          apply follows.inside
          rw [shape]
          exact List.mem_append_right before member

/-- A gap before a part that reads a word is taken whole. -/
theorem ReadsWord.matchAt_gap
    (reads : ReadsWord alphabet first test)
    (nonempty : test [] = none)
    (refuses : ∀ behind symbol rest, alphabet.isGap symbol = false →
      (sequence patterns).matchAt ⟨behind, symbol :: rest⟩ = none)
    {gap : List Symbol}
    (gapInside : ∀ symbol ∈ gap, alphabet.isGap symbol = true)
    (gapEnds : ∀ symbol ∈ text.head?, alphabet.isGap symbol = false) :
    (sequence (oneOrMore alphabet.isGap :: first :: patterns)).matchAt
        ⟨behind, gap ++ text⟩ =
      if gap = [] then none
      else ((sequence (first :: patterns)).matchAt
        ⟨after behind gap, text⟩).map (stretch behind gap text).andThen := by
  rw [matchAt_sequence_cons]
  split
  · next empty =>
      subst empty
      exact firstThat_oneOrMore_stop gapEnds
  · next isGap =>
      apply firstThat_oneOrMore_greedy isGap gapInside gapEnds
      intro before symbol others shape
      have inGap : alphabet.isGap symbol = true := by
        apply gapInside
        rw [shape]
        exact List.mem_append_right before List.mem_cons_self
      have refused :=
        @ReadsWord.refuses Name Symbol alphabet first patterns test
          (after behind before) reads nonempty refuses
          (symbol :: others ++ text) (by simpa using inGap)
      rw [stretch_stop, refused]
      rfl

/-- A gap and a word before parts that read onwards. -/
theorem ReadsOnwards.cons
    (onwards : ReadsOnwards alphabet patterns shape)
    (reads : ReadsWord alphabet first test)
    (nonempty : test [] = none) :
    ReadsOnwards alphabet (oneOrMore alphabet.isGap :: first :: patterns)
      (shape.map (test :: ·)) := by
  have atGap := @ReadsWord.matchAt_gap Name Symbol alphabet first patterns
    test
  constructor
  · intro behind symbol rest solid
    exact @atGap behind (symbol :: rest) reads nonempty onwards.refusesWord
      [] (by simp) (by simpa using solid)
  · intro behind gap endsLine words text follows laid
    rw [atGap reads nonempty onwards.refusesWord follows.inside
      laid.head_solid]
    cases laid with
    | nil =>
        have refused :=
          @ReadsWord.refuses Name Symbol alphabet first patterns test
            (after behind gap) reads nonempty onwards.refusesWord []
            (by simp)
        rw [refused, Option.map_none, ite_self, readShape_cons_nil]
        rfl
    | @cons word nextGap others ends words wordNonempty solid nextFollows
        nextLaid =>
        rw [if_neg (follows.apart.resolve_left (List.cons_ne_nil _ _)),
          reads.matchAt_sequence onwards.refusesWord solid
            (nextFollows.head_isGap nextLaid),
          readShape_cons]
        cases test word with
        | none => rfl
        | some groups =>
            have outcome :=
              onwards.reads (after behind (gap ++ word)) nextGap ends
                words others nextFollows nextLaid
            have led :=
              @MatchesReading.lead Name Symbol alphabet behind
                (nextGap ++ others) words ⟨word, ends⟩ _ _
                (gap ++ word) groups outcome
            have joined :
                (stretch behind gap
                    (word ++ (nextGap ++ others))).andThen ∘
                  Match.andThen ⟨word, groups,
                    ⟨after (after behind gap) word, nextGap ++ others⟩⟩ =
                Match.andThen ⟨gap ++ word, groups,
                  ⟨after behind (gap ++ word), nextGap ++ others⟩⟩ := by
              funext trailing
              simp [Match.andThen, stretch]
            rw [Option.bind_some, Option.bind_some, Option.map_map,
              joined, ← after_append, ← List.append_assoc]
            exact led

/-- The parts behind a word may be written as other parts. -/
theorem ReadsOnwards.congr
    {others : List (Pattern Name Symbol)}
    (onwards : ReadsOnwards alphabet patterns shape)
    (same : ∀ cursor : Cursor Symbol,
      (sequence others).matchAt cursor = (sequence patterns).matchAt cursor) :
    ReadsOnwards alphabet others shape := by
  constructor
  · intro behind symbol rest solid
    rw [same]
    exact onwards.refusesWord behind symbol rest solid
  · intro behind gap endsLine words text follows laid
    rw [same]
    exact onwards.reads behind gap endsLine words text follows laid

/-- A gap and a word that may be missing before parts that read onwards. -/
theorem ReadsOnwards.opt
    (onwards : ReadsOnwards alphabet patterns shape)
    (reads : ReadsWord alphabet first test)
    (nonempty : test [] = none)
    (same : ∀ cursor : Cursor Symbol,
      (sequence (inner :: patterns)).matchAt cursor =
        (sequence (oneOrMore alphabet.isGap :: first :: patterns)).matchAt
          cursor) :
    ReadsOnwards alphabet (.opt inner :: patterns)
      (shape.map (test :: ·) ++ shape) := by
  have taken := onwards.cons reads nonempty
  have either :
      ∀ cursor : Cursor Symbol,
        (sequence (.opt inner :: patterns)).matchAt cursor =
          ((sequence (oneOrMore alphabet.isGap :: first ::
            patterns)).matchAt cursor).or
              ((sequence patterns).matchAt cursor) := by
    intro cursor
    have skipped :
        (still cursor : Match Name Symbol).andThen = id := by
      funext trailing
      rfl
    rw [matchAt_sequence_cons, firstThat_opt, ← matchAt_sequence_cons, same,
      skipped, Option.map_id_apply]
    rfl
  constructor
  · intro behind symbol rest solid
    rw [either, taken.refusesWord behind symbol rest solid,
      onwards.refusesWord behind symbol rest solid]
    rfl
  · intro behind gap endsLine words text follows laid
    rw [either, readShape_append]
    exact (taken.reads behind gap endsLine words text follows laid).or
      (onwards.reads behind gap endsLine words text follows laid)

/-- A word before parts that read onwards. -/
theorem ReadsOnwards.readsLines
    (onwards : ReadsOnwards alphabet patterns shape)
    (reads : ReadsWord alphabet first test)
    (nonempty : test [] = none) :
    ReadsLines alphabet (sequence (first :: patterns))
      (shape.map (test :: ·)) := by
  have refuses :
      ∀ behind tail, (∀ symbol ∈ tail.head?,
        alphabet.isGap symbol = true) →
          (sequence (first :: patterns)).matchAt ⟨behind, tail⟩ = none :=
    fun behind tail isTail =>
      reads.refuses nonempty onwards.refusesWord isTail
  constructor
  · intro behind symbol rest isGap
    exact refuses behind _ (by simpa using isGap)
  · intro behind
    exact refuses behind [] (by simp)
  · intro behind words text laid
    cases laid with
    | nil =>
        rw [readShape_cons_nil]
        exact refuses behind [] (by simp)
    | @cons word gap text endsLine words wordNonempty solid follows others =>
        rw [reads.matchAt_sequence onwards.refusesWord solid
          (follows.head_isGap others), readShape_cons]
        cases test word with
        | none => rfl
        | some groups =>
            exact MatchesReading.lead word groups
              (onwards.reads (after behind word) gap endsLine words text
                follows others)

theorem ReadsLines.congr
    {other : Pattern Name Symbol}
    (readsLines : ReadsLines alphabet core shape)
    (same : ∀ cursor : Cursor Symbol,
      other.matchAt cursor = core.matchAt cursor) :
    ReadsLines alphabet other shape := by
  constructor
  · intro behind symbol rest isGap
    rw [same]
    exact readsLines.refusesGap behind symbol rest isGap
  · intro behind
    rw [same]
    exact readsLines.refusesEnd behind
  · intro behind words text laid
    rw [same]
    exact readsLines.reads behind words text laid

/-- Two parts of a sequence may be joined to one. -/
theorem matchAt_sequence_join {cursor : Cursor Symbol} :
    (sequence (first :: second :: patterns)).matchAt cursor =
      (sequence (seq first second :: patterns)).matchAt cursor := by
  simp only [matchAt_eq_firstThat, firstThat_sequence_cons, firstThat_seq,
    Match.andThen, List.append_assoc]

/-- A sequence at the front of a sequence is a part of it. -/
theorem firstThat_sequence_append
    {front : List (Pattern Name Symbol)}
    {cursor : Cursor Symbol}
    {accept : Match Name Symbol → Option (Match Name Symbol)} :
    (sequence (front ++ patterns)).firstThat cursor accept =
      (sequence (sequence front :: patterns)).firstThat cursor accept := by
  rw [firstThat_sequence_cons]
  induction front generalizing cursor accept with
  | nil =>
      rw [sequence, empty, firstThat_anchor, if_pos rfl]
      rfl
  | cons part front inductionHypothesis =>
      rw [List.cons_append, firstThat_sequence_cons,
        firstThat_sequence_cons]
      simp only [inductionHypothesis, Match.andThen, List.append_assoc]

/-- An optional gap and word in two parts. -/
theorem matchAt_sequence_nested {cursor : Cursor Symbol} :
    (sequence (sequence [inner, first, second] :: patterns)).matchAt cursor =
      (sequence (inner :: seq first second :: patterns)).matchAt cursor := by
  rw [matchAt_eq_firstThat, ← firstThat_sequence_append,
    ← matchAt_eq_firstThat, List.cons_append, matchAt_sequence_cons,
    matchAt_sequence_cons]
  simp only [List.cons_append, List.nil_append, matchAt_sequence_join]

end Sequences

section Scans

variable {alphabet : LineAlphabet Symbol}
variable {core : Pattern Name Symbol}
variable {shape : List (List (WordTest Name Symbol))}
variable {behind : Option Symbol}
variable {gap word text : List Symbol}
variable {words : List (LineWord Symbol)}

/-- Behind a word no line starts. -/
theorem after_word_inside
    (nonempty : word ≠ [])
    (solid : ∀ symbol ∈ word, alphabet.isGap symbol = false)
    (behind : Option Symbol)
    (gap : List Symbol) :
    (after behind (gap ++ word)).all alphabet.isBreak = false := by
  obtain ⟨last, member, isLast⟩ :=
    @after_mem Symbol (after behind gap) word nonempty
  rw [after_append, isLast]
  exact solid_unbroken solid last member

/-- What the core reads behind a gap at a line start. -/
theorem ReadsLines.matchAt_gap
    (readsLines : ReadsLines alphabet core shape)
    (laid : Laid alphabet words text)
    {reading : List (Name × List Symbol) × Nat}
    (read : readShape shape false words = some reading)
    (gapInside : ∀ symbol ∈ gap, alphabet.isGap symbol = true)
    (atStart : behind.all alphabet.isBreak = true) :
    ∃ taken left rest,
      StopsBefore alphabet text (words.drop reading.2) taken left rest ∧
        (linePattern alphabet core).matchAt ⟨behind, gap ++ text⟩ =
          some ⟨gap ++ taken, reading.1,
            ⟨after behind (gap ++ taken), left ++ rest⟩⟩ := by
  have outcome := readsLines.reads (after behind gap) words text laid
  rw [read] at outcome
  obtain ⟨taken, left, rest, stops, isResult⟩ := outcome
  refine ⟨taken, left, rest, stops, ?_⟩
  rw [matchAt_linePattern readsLines.refusesGap gapInside laid.head_solid
    atStart, isResult, after_append]
  rfl

/-- A match that stops at a line end has taken a word. -/
theorem StopsBefore.taken_ne_nil
    {others : List (LineWord Symbol)}
    {taken left rest : List Symbol}
    (stops : StopsBefore alphabet text others taken left rest)
    (laid : Laid alphabet words text)
    (nonempty : words ≠ []) :
    taken ≠ [] := by
  intro untaken
  have shape := stops.shape
  have atBreak := stops.atBreak
  obtain ⟨symbol, letters, isText, solid⟩ := laid.exists_head nonempty
  rw [untaken, List.nil_append] at shape
  rw [← shape, isText] at atBreak
  have isGap := alphabet.gapOfBreak symbol (atBreak symbol rfl)
  rw [solid] at isGap
  cases isGap

/-- Before the words that are left, a match stops at a line break. -/
theorem StopsBefore.breaks
    {taken left rest : List Symbol}
    (stops : StopsBefore alphabet text words taken left rest)
    (nonempty : words ≠ []) :
    ∃ symbol ∈ left, alphabet.isBreak symbol = true := by
  have atBreak := stops.atBreak
  cases left with
  | cons symbol others =>
      exact ⟨symbol, List.mem_cons_self, atBreak symbol rfl⟩
  | nil =>
      obtain ⟨symbol, letters, isRest, solid⟩ :=
        stops.laid.exists_head nonempty
      rw [List.nil_append, isRest] at atBreak
      have isGap := alphabet.gapOfBreak symbol (atBreak symbol rfl)
      rw [solid] at isGap
      cases isGap

/-- In a gap without a line start no line starts. -/
theorem after_gap_inside
    (notStart : ¬ (behind.all alphabet.isBreak = true ∨
      ∃ symbol ∈ gap, alphabet.isBreak symbol = true))
    {before left : List Symbol}
    (shape : gap = before ++ left) :
    (after behind before).all alphabet.isBreak = false := by
  push Not at notStart
  by_cases atOnce : before = []
  · rw [atOnce, after_nil]
    exact Bool.eq_false_iff.mpr notStart.1
  · obtain ⟨last, member, isLast⟩ := @after_mem Symbol behind before atOnce
    rw [isLast, Option.all_some, Bool.eq_false_iff]
    apply notStart.2
    rw [shape]
    exact List.mem_append_left left member

/-- At the first line start of a gap, what the core reads is found. -/
theorem ReadsLines.findIterFrom_hit
    (readsLines : ReadsLines alphabet core shape)
    (laid : Laid alphabet words text)
    (nonempty : words ≠ [])
    {reading : List (Name × List Symbol) × Nat}
    (read : readShape shape false words = some reading)
    (gapInside : ∀ symbol ∈ gap, alphabet.isGap symbol = true)
    (reachesStart : behind.all alphabet.isBreak = true ∨
      ∃ symbol ∈ gap, alphabet.isBreak symbol = true) :
    ∃ found last taken left rest,
      found.groups = reading.1 ∧
        StopsBefore alphabet text (words.drop reading.2) taken left rest ∧
          (linePattern alphabet core).findIterFrom 0 behind (gap ++ text) =
            found :: (linePattern alphabet core).findIterFrom 0 last
              (left ++ rest) := by
  obtain ⟨before, space, shape, atStart, passed⟩ :=
    @findIterFrom_lineStart Name Symbol alphabet core behind gap reachesStart
      text
  have spaceInside : ∀ symbol ∈ space, alphabet.isGap symbol = true := by
    intro symbol member
    apply gapInside
    rw [shape]
    exact List.mem_append_right before member
  obtain ⟨taken, left, rest, stops, matched⟩ :=
    readsLines.matchAt_gap laid read spaceInside atStart
  have moved : space ++ taken ≠ [] := by
    intro empty
    exact stops.taken_ne_nil laid nonempty
      (List.append_eq_nil_iff.mp empty).2
  have parted : space ++ text = (space ++ taken) ++ (left ++ rest) := by
    rw [stops.shape, List.append_assoc]
  refine ⟨⟨space ++ taken, reading.1,
      ⟨after (after behind before) (space ++ taken), left ++ rest⟩⟩,
    after (after behind before) (space ++ taken), taken, left, rest, rfl,
    stops, ?_⟩
  rw [passed]
  rw [parted] at matched ⊢
  exact Pattern.findIterFrom_hit rfl moved matched

/-- Where nothing is read, the line pattern refuses the whole gap. -/
theorem ReadsLines.refuses_gap
    (readsLines : ReadsLines alphabet core shape)
    (laid : Laid alphabet words text)
    (gapInside : ∀ symbol ∈ gap, alphabet.isGap symbol = true)
    (unread : (behind.all alphabet.isBreak = true ∨
        ∃ symbol ∈ gap, alphabet.isBreak symbol = true) →
      readShape shape false words = none)
    {before left : List Symbol}
    (parts : gap = before ++ left) :
    (linePattern alphabet core).matchAt ⟨after behind before, left ++ text⟩ =
      none := by
  by_cases reachesStart : behind.all alphabet.isBreak = true ∨
      ∃ symbol ∈ gap, alphabet.isBreak symbol = true
  · refine matchAt_linePattern_refused readsLines.refusesGap ?_
      laid.head_solid ?_
    · intro symbol member
      apply gapInside
      rw [parts]
      exact List.mem_append_right before member
    · intro behind
      have outcome := readsLines.reads behind _ _ laid
      rw [unread reachesStart] at outcome
      exact outcome
  · exact matchAt_linePattern_inside (after_gap_inside reachesStart parts) _

/-- A line pattern finds what its shape reads in the words of a text. -/
theorem ReadsLines.findIterFrom_groups
    (readsLines : ReadsLines alphabet core shape)
    (laid : Laid alphabet words text)
    (gapInside : ∀ symbol ∈ gap, alphabet.isGap symbol = true)
    {atStart : Bool}
    (starts : words ≠ [] → (atStart = true ↔
      behind.all alphabet.isBreak = true ∨
        ∃ symbol ∈ gap, alphabet.isBreak symbol = true)) :
    ((linePattern alphabet core).findIterFrom 0 behind (gap ++ text)).map
        Match.groups =
      scanFrom shape 0 atStart words := by
  induction count : words.length using Nat.strongRecOn
    generalizing words text gap behind atStart with
  | ind count inductionHypothesis =>
      subst count
      cases laid with
      | nil =>
          rw [List.append_nil, findIterFrom_lastGap readsLines.refusesGap
            readsLines.refusesEnd gapInside]
          rfl
      | @cons word nextGap rest endsLine words nonempty solid follows
          others =>
          have whole := Laid.cons nonempty solid follows others
          cases read : (if atStart then
              readShape shape false (⟨word, endsLine⟩ :: words)
            else none) with
          | none =>
              have unread :
                  (behind.all alphabet.isBreak = true ∨
                      ∃ symbol ∈ gap, alphabet.isBreak symbol = true) →
                    readShape shape false (⟨word, endsLine⟩ :: words) =
                      none := by
                intro reachesStart
                rwa [(starts (List.cons_ne_nil _ _)).mpr reachesStart,
                  if_pos rfl] at read
              have onwards :
                  ((linePattern alphabet core).findIterFrom 0
                      (after behind (gap ++ word)) (nextGap ++ rest)).map
                      Match.groups =
                    scanFrom shape 0 endsLine words := by
                apply inductionHypothesis words.length (Nat.lt_succ_self _)
                  others follows.inside _ rfl
                intro more
                rw [after_word_inside nonempty solid, follows.ends]
                simp [more]
              rw [findIterFrom_piece (solid_unbroken solid)
                (fun before left => readsLines.refuses_gap whole gapInside
                  unread), onwards, scanFrom, read]
          | some reading =>
              have isStart : atStart = true := by
                cases atStart with
                | true => rfl
                | false => cases read
              rw [if_pos isStart] at read
              obtain ⟨found, last, taken, left, remaining, captures, stops,
                scanned⟩ :=
                readsLines.findIterFrom_hit whole (List.cons_ne_nil _ _)
                  read gapInside ((starts (List.cons_ne_nil _ _)).mp isStart)
              obtain ⟨positive, skipped⟩ := scanFrom_readShape read
              have onwards :
                  ((linePattern alphabet core).findIterFrom 0 last
                      (left ++ remaining)).map Match.groups =
                    scanFrom shape 0 true
                      ((⟨word, endsLine⟩ :: words).drop reading.2) := by
                refine inductionHypothesis _ ?_ stops.laid stops.inside ?_
                  rfl
                · rw [List.length_drop]
                  exact Nat.sub_lt (Nat.succ_pos _) positive
                · intro more
                  exact ⟨fun _ => Or.inr (stops.breaks more), fun _ => rfl⟩
              rw [scanned, List.map_cons, captures, onwards, ← skipped,
                scanFrom, if_pos isStart, read]

end Scans

end Pattern

end BacktrackingRegex
