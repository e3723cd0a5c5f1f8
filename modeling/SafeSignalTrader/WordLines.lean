import Mathlib.Data.List.Infix
import SafeSignalTrader.LineScanning

/-!
# Texts as lines of words

What patterns over words can tell of a text: its words, each with a mark that
says whether its line ends behind it.  Readings run one test after the other
over the marked words; a scan tries them at every line start.
-/

namespace BacktrackingRegex

variable {Name Symbol : Type}

/-- A word of a text, and whether its line ends behind it. -/
structure LineWord (Symbol : Type) where
  text : List Symbol
  endsLine : Bool

section Words

/-- The words of a line, as its gaps separate them. -/
def wordsOf (isGap : Symbol → Bool) (line : List Symbol) :
    List (List Symbol) :=
  (line.splitOnP isGap).filter fun word => !word.isEmpty

/-- The lines of a text that hold a word, each as its words. -/
def rowsOf (alphabet : LineAlphabet Symbol) (text : List Symbol) :
    List (List (List Symbol)) :=
  ((text.splitOnP alphabet.isBreak).map (wordsOf alphabet.isGap)).filter
    fun row => !row.isEmpty

/-- The words of a row; the last one ends the line. -/
def markRow : List (List Symbol) → List (LineWord Symbol)
  | [] => []
  | word :: words => ⟨word, words.isEmpty⟩ :: markRow words

/-- The words of rows. -/
def markRows (rows : List (List (List Symbol))) : List (LineWord Symbol) :=
  rows.flatMap markRow

/-- Induction over the pieces between symbols of a kind. -/
theorem splitting_induction
    (separates : Symbol → Bool)
    {motive : List Symbol → Prop}
    (last : ∀ piece, (∀ symbol ∈ piece, separates symbol = false) →
      motive piece)
    (step : ∀ piece symbol rest,
      (∀ symbol ∈ piece, separates symbol = false) →
        separates symbol = true → motive rest →
          motive (piece ++ symbol :: rest))
    (text : List Symbol) :
    motive text := by
  have extended :
      ∀ piece, (∀ symbol ∈ piece, separates symbol = false) →
        motive (piece ++ text) := by
    induction text with
    | nil =>
        intro piece unseparated
        rw [List.append_nil]
        exact last piece unseparated
    | cons symbol rest inductionHypothesis =>
        intro piece unseparated
        cases isSeparator : separates symbol with
        | true =>
            exact step piece symbol rest unseparated isSeparator
              (inductionHypothesis [] (by simp))
        | false =>
            have longer := inductionHypothesis (piece ++ [symbol]) (by
              intro other member
              rcases List.mem_append.mp member with inPiece | isLast
              · exact unseparated other inPiece
              · rw [List.mem_singleton.mp isLast]
                exact isSeparator)
            rw [List.append_assoc] at longer
            exact longer
  exact extended [] (by simp)

section Splitting

variable {isGap : Symbol → Bool}
variable {piece rest : List Symbol}
variable {symbol : Symbol}

/-- A line without gaps is a word, unless it is empty. -/
theorem wordsOf_of_solid
    (solid : ∀ symbol ∈ piece, isGap symbol = false) :
    wordsOf isGap piece = if piece = [] then [] else [piece] := by
  rw [wordsOf, List.splitOnP_eq_singleton solid]
  cases piece with
  | nil => rfl
  | cons first others => rfl

/-- A gap separates words. -/
theorem wordsOf_append_cons
    (solid : ∀ symbol ∈ piece, isGap symbol = false)
    (separates : isGap symbol = true) :
    wordsOf isGap (piece ++ symbol :: rest) =
      if piece = [] then wordsOf isGap rest
      else piece :: wordsOf isGap rest := by
  rw [wordsOf, wordsOf,
    List.splitOnP_append_cons_of_forall_mem solid symbol separates]
  cases piece with
  | nil => rfl
  | cons first others => rfl

variable {alphabet : LineAlphabet Symbol}

/-- A text of one line is one row, unless it holds no word. -/
theorem rowsOf_of_unbroken
    (unbroken : ∀ symbol ∈ piece, alphabet.isBreak symbol = false) :
    rowsOf alphabet piece =
      if wordsOf alphabet.isGap piece = [] then []
      else [wordsOf alphabet.isGap piece] := by
  rw [rowsOf, List.splitOnP_eq_singleton unbroken, List.map_singleton]
  cases wordsOf alphabet.isGap piece with
  | nil => rfl
  | cons word words => rfl

/-- A break separates rows. -/
theorem rowsOf_append_cons
    (unbroken : ∀ symbol ∈ piece, alphabet.isBreak symbol = false)
    (breaks : alphabet.isBreak symbol = true) :
    rowsOf alphabet (piece ++ symbol :: rest) =
      if wordsOf alphabet.isGap piece = [] then rowsOf alphabet rest
      else wordsOf alphabet.isGap piece :: rowsOf alphabet rest := by
  rw [rowsOf, rowsOf,
    List.splitOnP_append_cons_of_forall_mem unbroken symbol breaks,
    List.map_cons]
  cases wordsOf alphabet.isGap piece with
  | nil => rfl
  | cons word words => rfl

end Splitting

/-- No row is empty. -/
theorem rowsOf_nonempty
    {alphabet : LineAlphabet Symbol}
    {text : List Symbol} :
    ∀ row ∈ rowsOf alphabet text, row ≠ [] := by
  intro row member empty
  rw [empty] at member
  cases (List.mem_filter.mp member).2

theorem markRow_eq_nil_iff (row : List (List Symbol)) :
    markRow row = [] ↔ row = [] := by
  cases row <;> simp [markRow]

theorem markRows_cons
    (row : List (List Symbol))
    (rows : List (List (List Symbol))) :
    markRows (row :: rows) = markRow row ++ markRows rows :=
  List.flatMap_cons

end Words

section Layout

variable (alphabet : LineAlphabet Symbol)

/-- A gap behind a word, before the words that follow. -/
structure EndsWord
    (gap : List Symbol)
    (endsLine : Bool)
    (words : List (LineWord Symbol)) : Prop where
  inside : ∀ symbol ∈ gap, alphabet.isGap symbol = true
  apart : words = [] ∨ gap ≠ []
  ends : endsLine = true ↔
    words = [] ∨ ∃ symbol ∈ gap, alphabet.isBreak symbol = true

/-- A text that starts with a word and holds the given words. -/
inductive Laid : List (LineWord Symbol) → List Symbol → Prop where
  | nil : Laid [] []
  | cons
      {word gap text : List Symbol}
      {endsLine : Bool}
      {words : List (LineWord Symbol)}
      (nonempty : word ≠ [])
      (solid : ∀ symbol ∈ word, alphabet.isGap symbol = false)
      (follows : EndsWord alphabet gap endsLine words)
      (others : Laid words text) :
      Laid (⟨word, endsLine⟩ :: words) (word ++ (gap ++ text))

variable {alphabet}
variable {words more : List (LineWord Symbol)}
variable {text other gap : List Symbol}

/-- A text of words starts outside of gaps. -/
theorem Laid.head_solid (laid : Laid alphabet words text) :
    ∀ symbol ∈ text.head?, alphabet.isGap symbol = false := by
  cases laid with
  | nil => simp
  | @cons word gap rest endsLine words nonempty solid follows others =>
      intro symbol isHead
      obtain ⟨first, letters, rfl⟩ := List.exists_cons_of_ne_nil nonempty
      rw [List.cons_append, List.head?_cons, Option.mem_some_iff] at isHead
      rw [← isHead]
      exact solid first List.mem_cons_self

/-- A text that holds words has a first symbol, outside of gaps. -/
theorem Laid.exists_head
    (laid : Laid alphabet words text)
    (nonempty : words ≠ []) :
    ∃ symbol rest, text = symbol :: rest ∧
      alphabet.isGap symbol = false := by
  have solid := laid.head_solid
  cases laid with
  | nil => exact absurd rfl nonempty
  | cons wordNonempty _ _ _ =>
      obtain ⟨symbol, letters, rfl⟩ :=
        List.exists_cons_of_ne_nil wordNonempty
      exact ⟨symbol, _, List.cons_append, solid symbol rfl⟩

/-- Behind a word a gap starts, or the text ends. -/
theorem EndsWord.head_isGap
    {endsLine : Bool}
    (follows : EndsWord alphabet gap endsLine words)
    (laid : Laid alphabet words text) :
    ∀ symbol ∈ (gap ++ text).head?, alphabet.isGap symbol = true := by
  intro symbol isHead
  cases shape : gap with
  | cons first others =>
      rw [shape, List.cons_append, List.head?_cons, Option.mem_some_iff]
        at isHead
      apply follows.inside
      rw [shape, ← isHead]
      exact List.mem_cons_self
  | nil =>
      have noWords := follows.apart.resolve_right (fun nonempty =>
        nonempty shape)
      subst noWords
      cases laid with
      | nil =>
          rw [shape] at isHead
          cases isHead

/-- Texts of words on different lines. -/
theorem Laid.append
    (laid : Laid alphabet words text)
    (nonempty : words ≠ [])
    (gapInside : ∀ symbol ∈ gap, alphabet.isGap symbol = true)
    (breaks : ∃ symbol ∈ gap, alphabet.isBreak symbol = true)
    (onwards : Laid alphabet more other) :
    Laid alphabet (words ++ more) (text ++ (gap ++ other)) := by
  induction laid with
  | nil => exact absurd rfl nonempty
  | @cons word behind rest endsLine words wordNonempty solid follows others
      inductionHypothesis =>
      by_cases last : words = []
      · subst last
        cases others with
        | nil =>
            have endsHere := follows.ends.mpr (Or.inl rfl)
            have joined :
                EndsWord alphabet (behind ++ gap) endsLine more := by
              obtain ⟨symbol, member, isBreak⟩ := breaks
              refine ⟨?_, Or.inr ?_, ?_⟩
              · intro symbol member
                rcases List.mem_append.mp member with inBehind | inGap
                · exact follows.inside symbol inBehind
                · exact gapInside symbol inGap
              · intro empty
                rw [List.append_eq_nil_iff] at empty
                rw [empty.2] at member
                cases member
              · exact ⟨fun _ => Or.inr ⟨symbol,
                  List.mem_append_right behind member, isBreak⟩,
                  fun _ => endsHere⟩
            have whole := Laid.cons wordNonempty solid joined onwards
            simpa using whole
      · have later := inductionHypothesis last
        have kept :
            EndsWord alphabet behind endsLine (words ++ more) := by
          refine ⟨follows.inside, Or.inr (follows.apart.resolve_left last),
            ?_⟩
          rw [follows.ends]
          simp [last]
        have whole := Laid.cons wordNonempty solid kept later
        simpa using whole

/-- A line is a gap and a text of its words. -/
theorem exists_laid_row (line : List Symbol)
    (unbroken : ∀ symbol ∈ line, alphabet.isBreak symbol = false) :
    ∃ gap text, line = gap ++ text ∧
      (∀ symbol ∈ gap, alphabet.isGap symbol = true) ∧
        Laid alphabet (markRow (wordsOf alphabet.isGap line)) text := by
  induction line using splitting_induction alphabet.isGap with
  | last piece solid =>
      rw [wordsOf_of_solid solid]
      by_cases empty : piece = []
      · subst empty
        exact ⟨[], [], rfl, by simp, Laid.nil⟩
      · rw [if_neg empty]
        refine ⟨[], piece, rfl, by simp, ?_⟩
        have laid :=
          Laid.cons empty solid
            (⟨by simp, Or.inl rfl, by simp⟩ :
              EndsWord alphabet [] true ([] : List (LineWord Symbol)))
            Laid.nil
        simpa [markRow] using laid
  | step piece symbol rest solid isGap inductionHypothesis =>
      obtain ⟨gap, text, shape, gapInside, laid⟩ :=
        inductionHypothesis (fun other member =>
          unbroken other (List.mem_append_right piece
            (List.mem_cons_of_mem symbol member)))
      have longer :
          ∀ other ∈ symbol :: gap, alphabet.isGap other = true :=
        List.forall_mem_cons.mpr ⟨isGap, gapInside⟩
      rw [wordsOf_append_cons solid isGap]
      by_cases empty : piece = []
      · subst empty
        rw [if_pos rfl]
        exact ⟨symbol :: gap, text, by simp [shape], longer, laid⟩
      · rw [if_neg empty]
        refine ⟨[], piece ++ (symbol :: gap ++ text), by simp [shape],
          by simp, ?_⟩
        refine Laid.cons empty solid ⟨longer, Or.inr (by simp), ?_⟩ laid
        have noBreak :
            ¬ ∃ other ∈ symbol :: gap, alphabet.isBreak other = true := by
          rintro ⟨other, member, isBreak⟩
          have inLine : other ∈ piece ++ symbol :: rest := by
            rw [shape]
            apply List.mem_append_right
            rw [← List.cons_append]
            exact List.mem_append_left text member
          rw [unbroken other inLine] at isBreak
          cases isBreak
        rw [List.isEmpty_iff, markRow_eq_nil_iff]
        exact ⟨Or.inl, fun follows => follows.resolve_right noBreak⟩

/-- A text is a gap and a text of the words of its rows. -/
theorem exists_laid (alphabet : LineAlphabet Symbol) (text : List Symbol) :
    ∃ gap body, text = gap ++ body ∧
      (∀ symbol ∈ gap, alphabet.isGap symbol = true) ∧
        Laid alphabet (markRows (rowsOf alphabet text)) body := by
  induction text using splitting_induction alphabet.isBreak with
  | last piece unbroken =>
      obtain ⟨gap, body, shape, gapInside, laid⟩ :=
        exists_laid_row piece unbroken
      refine ⟨gap, body, shape, gapInside, ?_⟩
      rw [rowsOf_of_unbroken unbroken]
      split
      · next noWords =>
          rw [noWords] at laid
          exact laid
      · rw [markRows_cons]
        simpa [markRows] using laid
  | step piece symbol rest unbroken isBreak inductionHypothesis =>
      obtain ⟨gap, body, shape, gapInside, laid⟩ :=
        exists_laid_row piece unbroken
      obtain ⟨nextGap, nextBody, nextShape, nextInside, nextLaid⟩ :=
        inductionHypothesis
      have between :
          ∀ other ∈ symbol :: nextGap, alphabet.isGap other = true :=
        List.forall_mem_cons.mpr
          ⟨alphabet.gapOfBreak symbol isBreak, nextInside⟩
      rw [rowsOf_append_cons unbroken isBreak]
      by_cases noWords : wordsOf alphabet.isGap piece = []
      · rw [noWords] at laid
        cases laid
        rw [if_pos noWords]
        refine ⟨gap ++ symbol :: nextGap, nextBody, ?_, ?_, nextLaid⟩
        · simp [shape, nextShape]
        · intro other member
          rcases List.mem_append.mp member with inGap | inNext
          · exact gapInside other inGap
          · exact between other inNext
      · rw [if_neg noWords, markRows_cons]
        refine ⟨gap, body ++ (symbol :: nextGap ++ nextBody), ?_, gapInside,
          laid.append ?_ between ⟨symbol, List.mem_cons_self, isBreak⟩
            nextLaid⟩
        · simp [shape, nextShape]
        · rw [Ne, markRow_eq_nil_iff]
          exact noWords

end Layout

section Readings

/-- What a word says, if it passes a test. -/
abbrev WordTest (Name Symbol : Type) :=
  List Symbol → Option (List (Name × List Symbol))

/-- Words pass tests one by one, and the line ends behind the last of them. -/
def readWords :
    List (WordTest Name Symbol) → Bool → List (LineWord Symbol) →
      Option (List (Name × List Symbol))
  | [], endsLine, _ => if endsLine then some [] else none
  | _ :: _, _, [] => none
  | test :: tests, _, word :: words => do
      let groups ← test word.text
      let others ← readWords tests word.endsLine words
      return groups ++ others

/-- The first of some test lists that words pass, and how many words it takes. -/
def readShape
    (shape : List (List (WordTest Name Symbol)))
    (endsLine : Bool)
    (words : List (LineWord Symbol)) :
    Option (List (Name × List Symbol) × Nat) :=
  shape.findSome? fun tests =>
    (readWords tests endsLine words).map fun groups =>
      (groups, tests.length)

/-- What a shape reads from the first of some rows on. -/
def readRows
    (shape : List (List (WordTest Name Symbol)))
    (rows : List (List (List Symbol))) :
    Option (List (Name × List Symbol) × Nat) :=
  readShape shape false (markRows rows)

/--
The readings of a shape at line starts, where the next `skip` words belong to
the last reading.
-/
def scanFrom (shape : List (List (WordTest Name Symbol))) :
    Nat → Bool → List (LineWord Symbol) →
      List (List (Name × List Symbol))
  | _, _, [] => []
  | skip + 1, _, word :: words => scanFrom shape skip word.endsLine words
  | 0, atStart, word :: words =>
      match if atStart then readShape shape false (word :: words)
          else none with
      | some (groups, count) =>
          groups :: scanFrom shape (count - 1) word.endsLine words
      | none => scanFrom shape 0 word.endsLine words

variable {tests : List (WordTest Name Symbol)}
variable {shape : List (List (WordTest Name Symbol))}
variable {words more : List (LineWord Symbol)}
variable {endsLine : Bool}

/-- A reading sees as many words as it has tests. -/
theorem readWords_take
    (tests : List (WordTest Name Symbol))
    (endsLine : Bool)
    (words : List (LineWord Symbol)) :
    readWords tests endsLine words =
      readWords tests endsLine (words.take tests.length) := by
  induction tests generalizing endsLine words with
  | nil => rfl
  | cons test tests inductionHypothesis =>
      cases words with
      | nil => rfl
      | cons word words =>
          rw [readWords, inductionHypothesis]
          rfl

/-- Words that follow do not take a reading away. -/
theorem readWords_append
    {groups : List (Name × List Symbol)}
    (read : readWords tests endsLine words = some groups)
    (more : List (LineWord Symbol)) :
    readWords tests endsLine (words ++ more) = some groups := by
  induction tests generalizing endsLine words groups with
  | nil => exact read
  | cons test tests inductionHypothesis =>
      cases words with
      | nil => cases read
      | cons word words =>
          simp only [readWords, bind, Option.bind_eq_some_iff] at read
          obtain ⟨first, passed, others, onwards, joined⟩ := read
          simp only [List.cons_append, readWords, bind,
            Option.bind_eq_some_iff]
          exact ⟨first, passed, others, inductionHypothesis onwards, joined⟩

/-- Each word a reading takes passes one of its tests. -/
theorem passed_of_readWords
    {groups : List (Name × List Symbol)}
    (read : readWords tests endsLine words = some groups) :
    ∀ word ∈ words.take tests.length,
      ∃ test ∈ tests, test word.text ≠ none := by
  induction tests generalizing endsLine words groups with
  | nil => simp
  | cons test tests inductionHypothesis =>
      cases words with
      | nil => cases read
      | cons word words =>
          simp only [readWords, bind, Option.bind_eq_some_iff] at read
          obtain ⟨first, passed, others, onwards, _⟩ := read
          intro other member
          rcases List.mem_cons.mp member with isFirst | inRest
          · refine ⟨test, List.mem_cons_self, ?_⟩
            rw [isFirst, passed]
            exact Option.some_ne_none first
          · obtain ⟨later, isLater, passes⟩ :=
              inductionHypothesis onwards other inRest
            exact ⟨later, List.mem_cons_of_mem test isLater, passes⟩

/-- One more test in front of each list of a shape. -/
theorem readShape_cons
    (test : WordTest Name Symbol)
    (shape : List (List (WordTest Name Symbol)))
    (word : LineWord Symbol)
    (words : List (LineWord Symbol)) :
    readShape (shape.map (test :: ·)) endsLine (word :: words) =
      (test word.text).bind fun groups =>
        (readShape shape word.endsLine words).map fun reading =>
          (groups ++ reading.1, reading.2 + 1) := by
  induction shape with
  | nil => cases test word.text <;> rfl
  | cons tests shape inductionHypothesis =>
      simp only [readShape] at inductionHypothesis
      simp only [readShape, List.map_cons, List.findSome?_cons,
        inductionHypothesis]
      cases passed : test word.text with
      | none => simp [readWords, passed, bind]
      | some groups =>
          cases onwards : readWords tests word.endsLine words with
          | none => simp [readWords, passed, onwards, bind]
          | some others => simp [readWords, passed, onwards, bind]

theorem readShape_cons_nil
    (test : WordTest Name Symbol)
    (shape : List (List (WordTest Name Symbol))) :
    readShape (shape.map (test :: ·)) endsLine [] = none := by
  rw [readShape, List.findSome?_eq_none_iff]
  intro tests member
  obtain ⟨others, _, rfl⟩ := List.mem_map.mp member
  rfl

theorem readShape_append
    (first second : List (List (WordTest Name Symbol))) :
    readShape (first ++ second) endsLine words =
      (readShape first endsLine words).or
        (readShape second endsLine words) :=
  List.findSome?_append

end Readings

section Scans

variable {shape : List (List (WordTest Name Symbol))}
variable {row : List (List Symbol)}
variable {rows : List (List (List Symbol))}
variable {words : List (LineWord Symbol)}

/-- What a shape reads from each row on. -/
def readings
    (shape : List (List (WordTest Name Symbol)))
    (rows : List (List (List Symbol))) :
    List (List (Name × List Symbol)) :=
  rows.tails.filterMap fun rows => (readRows shape rows).map Prod.fst

/-- No word that continues a reading starts one. -/
def Keyed (shape : List (List (WordTest Name Symbol))) : Prop :=
  ∀ tests ∈ shape, ∀ test ∈ tests.tail, ∀ word, test word ≠ none →
    ∀ others ∈ shape, ∀ key ∈ others.head?, key word = none

theorem readShape_nil (shape : List (List (WordTest Name Symbol))) :
    readShape shape false [] = none := by
  rw [readShape, List.findSome?_eq_none_iff]
  intro tests _
  cases tests <;> rfl

theorem length_markRow (row : List (List Symbol)) :
    (markRow row).length = row.length := by
  induction row with
  | nil => rfl
  | cons word words inductionHypothesis =>
      rw [markRow, List.length_cons, List.length_cons, inductionHypothesis]

/-- A scan passes the rest of a row. -/
theorem scanFrom_row
    (shape : List (List (WordTest Name Symbol)))
    (row : List (List Symbol))
    (words : List (LineWord Symbol)) :
    scanFrom shape 0 row.isEmpty (markRow row ++ words) =
      scanFrom shape 0 true words := by
  induction row with
  | nil => rfl
  | cons word others inductionHypothesis =>
      rw [← inductionHypothesis]
      rfl

/-- The words of a reading may be scanned if no reading starts at them. -/
theorem scanFrom_idle
    {skip : Nat}
    {atStart : Bool}
    (idle : ∀ index, index < skip →
      readShape shape false (words.drop index) = none) :
    scanFrom shape skip atStart words = scanFrom shape 0 atStart words := by
  induction words generalizing skip atStart with
  | nil => cases skip <;> rfl
  | cons word words inductionHypothesis =>
      cases skip with
      | zero => rfl
      | succ skip =>
          have noReading :
              readShape shape false (word :: words) = none :=
            idle 0 (Nat.succ_pos skip)
          rw [scanFrom, scanFrom, noReading, ite_self]
          apply inductionHypothesis
          intro index below
          exact idle (index + 1) (Nat.succ_lt_succ below)

/-- Behind a reading a scan goes on at a line start. -/
theorem scanFrom_readWords
    {tests : List (WordTest Name Symbol)}
    {endsLine : Bool}
    {groups : List (Name × List Symbol)}
    (read : readWords tests endsLine words = some groups) :
    scanFrom shape tests.length endsLine words =
      scanFrom shape 0 true (words.drop tests.length) := by
  induction tests generalizing endsLine words groups with
  | nil =>
      rw [readWords] at read
      split at read
      · next ends =>
          rw [ends]
          rfl
      · cases read
  | cons test tests inductionHypothesis =>
      cases words with
      | nil => cases read
      | cons word words =>
          simp only [readWords, bind, Option.bind_eq_some_iff] at read
          obtain ⟨_, _, others, onwards, _⟩ := read
          exact inductionHypothesis onwards

theorem scanFrom_readShape
    {word : LineWord Symbol}
    {reading : List (Name × List Symbol) × Nat}
    (read : readShape shape false (word :: words) = some reading) :
    0 < reading.2 ∧
      scanFrom shape (reading.2 - 1) word.endsLine words =
        scanFrom shape 0 true ((word :: words).drop reading.2) := by
  obtain ⟨tests, _, passed⟩ := List.exists_of_findSome?_eq_some read
  obtain ⟨groups, passes, rfl⟩ := Option.map_eq_some_iff.mp passed
  cases tests with
  | nil => cases passes
  | cons first later =>
      simp only [readWords, bind, Option.bind_eq_some_iff] at passes
      obtain ⟨_, _, others, onwards, _⟩ := passes
      exact ⟨Nat.succ_pos _, scanFrom_readWords onwards⟩

/-- In a keyed shape no reading starts at a word that continues another. -/
theorem Keyed.idle
    (keyed : Keyed shape)
    {word : LineWord Symbol}
    {reading : List (Name × List Symbol) × Nat}
    (read : readShape shape false (word :: words) = some reading) :
    ∀ index, index < reading.2 - 1 →
      readShape shape false (words.drop index) = none := by
  obtain ⟨tests, member, passed⟩ := List.exists_of_findSome?_eq_some read
  obtain ⟨groups, passes, rfl⟩ := Option.map_eq_some_iff.mp passed
  intro index below
  cases tests with
  | nil => cases passes
  | cons first later =>
      simp only [readWords, bind, Option.bind_eq_some_iff] at passes
      obtain ⟨_, _, others, onwards, _⟩ := passes
      cases dropped : words.drop index with
      | nil => exact readShape_nil shape
      | cons next rest =>
          have taken : next ∈ words.take later.length := by
            rw [List.mem_take_iff_getElem]
            have inWords : index < words.length := by
              by_contra beyond
              rw [List.drop_eq_nil_of_le (Nat.not_lt.mp beyond)] at dropped
              cases dropped
            refine ⟨index, Nat.lt_min.mpr ⟨below, inWords⟩, ?_⟩
            rw [List.drop_eq_getElem_cons inWords] at dropped
            exact (List.cons.inj dropped).1
          obtain ⟨test, isLater, passesNext⟩ :=
            passed_of_readWords onwards next taken
          rw [readShape, List.findSome?_eq_none_iff]
          intro others isOther
          cases others with
          | nil => rfl
          | cons key remaining =>
              have refused : key next.text = none :=
                keyed (first :: later) member test isLater next.text
                  passesNext _ isOther key rfl
              simp [readWords, refused, bind]

/-- The readings from the first row on and from the others. -/
theorem readings_cons (row : List (List Symbol)) :
    readings shape (row :: rows) =
      ((readRows shape (row :: rows)).map Prod.fst).toList ++
        readings shape rows := by
  rw [readings, List.tails_cons, List.filterMap_cons]
  cases readRows shape (row :: rows) <;> rfl

/-- A scan at a line start reads its row or goes on behind it. -/
theorem scanFrom_markRows
    (word : List Symbol)
    (others : List (List Symbol)) :
    scanFrom shape 0 true (markRows ((word :: others) :: rows)) =
      match readRows shape ((word :: others) :: rows) with
      | none => scanFrom shape 0 true (markRows rows)
      | some reading =>
          reading.1 ::
            scanFrom shape (reading.2 - 1) others.isEmpty
              (markRow others ++ markRows rows) := by
  rw [readRows, markRows_cons, markRow, List.cons_append, scanFrom,
    if_pos rfl]
  cases readShape shape false
      (⟨word, others.isEmpty⟩ :: (markRow others ++ markRows rows)) with
  | none => exact scanFrom_row shape others _
  | some reading => rfl

/-- The first reading of a scan is the first reading from a row on. -/
theorem head?_scanFrom
    (nonempty : ∀ row ∈ rows, row ≠ []) :
    (scanFrom shape 0 true (markRows rows)).head? =
      (readings shape rows).head? := by
  induction rows with
  | nil =>
      simp [readings, readRows, readShape_nil, markRows, scanFrom]
  | cons row rows inductionHypothesis =>
      obtain ⟨word, others, rfl⟩ :=
        List.exists_cons_of_ne_nil (nonempty row List.mem_cons_self)
      rw [readings_cons, scanFrom_markRows]
      cases readRows shape ((word :: others) :: rows) with
      | none =>
          exact inductionHypothesis fun row member =>
            nonempty row (List.mem_cons_of_mem _ member)
      | some reading => rfl

/-- A scan by a keyed shape lists what is read from each row on. -/
theorem scanFrom_keyed
    (keyed : Keyed shape)
    (nonempty : ∀ row ∈ rows, row ≠ []) :
    scanFrom shape 0 true (markRows rows) = readings shape rows := by
  induction rows with
  | nil =>
      simp [readings, readRows, readShape_nil, markRows, scanFrom]
  | cons row rows inductionHypothesis =>
      obtain ⟨word, others, rfl⟩ :=
        List.exists_cons_of_ne_nil (nonempty row List.mem_cons_self)
      have later :=
        inductionHypothesis fun row member =>
          nonempty row (List.mem_cons_of_mem _ member)
      rw [readings_cons, scanFrom_markRows]
      cases read : readRows shape ((word :: others) :: rows) with
      | none =>
          exact later
      | some reading =>
          rw [readRows, markRows_cons, markRow, List.cons_append] at read
          dsimp only [Option.map_some]
          rw [scanFrom_idle (keyed.idle read), scanFrom_row, later]
          rfl

/-- A reading that does not go beyond its first row is one of that row. -/
theorem readRows_alone
    {reading : List (Name × List Symbol) × Nat}
    (read : readRows shape (row :: rows) = some reading)
    (within : reading.2 ≤ row.length) :
    readRows shape [row] = some reading := by
  have single : markRows [row] = markRow row := by
    simp [markRows]
  rw [readRows, markRows_cons] at read
  rw [readRows, single]
  induction shape with
  | nil => cases read
  | cons tests shape inductionHypothesis =>
      rw [readShape, List.findSome?_cons] at read ⊢
      cases whole : readWords tests false
          (markRow row ++ markRows rows) with
      | some groups =>
          rw [whole] at read
          cases read
          have alone : readWords tests false (markRow row) = some groups := by
            rw [readWords_take] at whole ⊢
            rwa [List.take_append_of_le_length
              (by rw [length_markRow]; exact within)] at whole
          rw [alone]
          rfl
      | none =>
          rw [whole] at read
          have alone : readWords tests false (markRow row) = none := by
            cases read : readWords tests false (markRow row) with
            | none => rfl
            | some groups =>
                rw [readWords_append read] at whole
                cases whole
          rw [alone]
          exact inductionHypothesis read

end Scans

end BacktrackingRegex
