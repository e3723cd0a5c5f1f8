import SafeSignalTrader.LineValues

/-!
# Readings of folded words

Word tests that do not tell a symbol from the one it folds to, a letter from
its capital for instance.  When all words of a text are folded, such tests read
the same words, folded, and nothing else changes; so what a line pattern finds
depends on the folded words of the lines and not on how they are laid out.
-/

namespace BacktrackingRegex

open Match Pattern

variable {Name Symbol : Type}

section Folds

variable (fold : Symbol → Symbol)

/-- Captures with every symbol folded. -/
def foldGroups (groups : List (Name × List Symbol)) :
    List (Name × List Symbol) :=
  groups.map fun captured => (captured.1, captured.2.map fold)

/-- A word with every symbol folded. -/
def foldWord (word : LineWord Symbol) : LineWord Symbol :=
  { word with text := word.text.map fold }

/-- Rows with every symbol folded. -/
def foldRows (rows : List (List (List Symbol))) : List (List (List Symbol)) :=
  rows.map fun row => row.map fun word => word.map fold

/-- A kind of symbols that does not tell a symbol from what it folds to. -/
def KeptBy (accepts : Symbol → Bool) : Prop :=
  ∀ symbol, accepts (fold symbol) = accepts symbol

/-- A test that reads the same of a folded word, folded. -/
def FoldsAlike (test : WordTest Name Symbol) : Prop :=
  ∀ word, test (word.map fold) = (test word).map (foldGroups fold)

end Folds

variable {fold : Symbol → Symbol}

section Tests

variable {accepts : Symbol → Bool}
variable {tests : List (Symbol → Bool)}
variable {test first second : WordTest Name Symbol}
variable {name : Name}

/-- Folded letters pass the same tests. -/
theorem passes_fold
    (kept : ∀ test ∈ tests, KeptBy fold test)
    (word : List Symbol) :
    passes tests (word.map fold) = passes tests word := by
  induction tests generalizing word with
  | nil => rfl
  | cons test tests inductionHypothesis =>
      cases word with
      | nil => rfl
      | cons symbol rest =>
          rw [List.map_cons, passes, passes,
            kept test List.mem_cons_self symbol,
            inductionHypothesis fun other member =>
              kept other (List.mem_cons_of_mem test member)]

theorem foldsAlike_symbol
    (kept : KeptBy fold accepts) :
    FoldsAlike fold (symbolTest accepts : WordTest Name Symbol) := by
  intro word
  match word with
  | [] => rfl
  | [symbol] =>
      simp only [List.map_cons, List.map_nil, symbolTest, kept symbol]
      cases accepts symbol <;> rfl
  | _ :: _ :: _ => rfl

theorem foldsAlike_letters
    (kept : ∀ test ∈ tests, KeptBy fold test) :
    FoldsAlike fold (lettersTest tests : WordTest Name Symbol) := by
  intro word
  simp only [lettersTest, passes_fold kept, List.length_map]
  split <;> rfl

theorem foldsAlike_kind
    (kept : KeptBy fold accepts) :
    FoldsAlike fold (kindTest accepts : WordTest Name Symbol) := by
  intro word
  have sameKind : (word.map fold).all accepts = word.all accepts := by
    rw [List.all_map]
    congr 1
    funext symbol
    exact kept symbol
  simp only [kindTest, sameKind, ne_eq, List.map_eq_nil_iff]
  split <;> rfl

theorem FoldsAlike.group
    (alike : FoldsAlike fold test)
    (name : Name) :
    FoldsAlike fold (groupTest name test) := by
  intro word
  rw [groupTest, groupTest, alike word]
  cases test word <;> rfl

theorem FoldsAlike.either
    (firstAlike : FoldsAlike fold first)
    (secondAlike : FoldsAlike fold second) :
    FoldsAlike fold (eitherTest first second) := by
  intro word
  rw [eitherTest, eitherTest, firstAlike word, secondAlike word]
  cases first word <;> rfl

theorem FoldsAlike.optional
    (alike : FoldsAlike fold test) :
    FoldsAlike fold (optionalTest test) := by
  intro word
  simp only [optionalTest, List.map_eq_nil_iff, alike word]
  split <;> rfl

theorem FoldsAlike.prefixed
    (kept : ∀ test ∈ tests, KeptBy fold test)
    (alike : FoldsAlike fold test) :
    FoldsAlike fold (prefixTest tests test) := by
  intro word
  simp only [prefixTest, passes_fold kept, ← List.map_drop]
  split
  · exact alike _
  · rfl

theorem FoldsAlike.leading
    (kept : KeptBy fold accepts)
    (alike : FoldsAlike fold test)
    (name : Name) :
    FoldsAlike fold (leadingTest name accepts test) := by
  intro word
  have sameKind : accepts ∘ fold = accepts := funext kept
  simp only [leadingTest, List.takeWhile_map, List.dropWhile_map, sameKind,
    List.map_eq_nil_iff]
  split
  · rfl
  · rw [alike]
    cases test (word.dropWhile accepts) <;> rfl

end Tests

section Readings

variable {tests : List (WordTest Name Symbol)}
variable {shape : List (List (WordTest Name Symbol))}

/-- Tests read the same of folded words, folded. -/
theorem readWords_fold
    (alike : ∀ test ∈ tests, FoldsAlike fold test)
    (endsLine : Bool)
    (words : List (LineWord Symbol)) :
    readWords tests endsLine (words.map (foldWord fold)) =
      (readWords tests endsLine words).map (foldGroups fold) := by
  induction tests generalizing endsLine words with
  | nil =>
      cases endsLine <;> rfl
  | cons test tests inductionHypothesis =>
      cases words with
      | nil => rfl
      | cons word words =>
          have onwards := inductionHypothesis
            (fun other member => alike other (List.mem_cons_of_mem test member))
            word.endsLine words
          have here := alike test List.mem_cons_self word.text
          simp only [List.map_cons, readWords, foldWord, bind] at onwards ⊢
          rw [here, onwards]
          cases test word.text with
          | none => rfl
          | some groups =>
              cases readWords tests word.endsLine words with
              | none => rfl
              | some others => simp [foldGroups]

/-- A shape reads the same of folded words, and as many of them. -/
theorem readShape_fold
    (alike : ∀ tests ∈ shape, ∀ test ∈ tests, FoldsAlike fold test)
    (endsLine : Bool)
    (words : List (LineWord Symbol)) :
    readShape shape endsLine (words.map (foldWord fold)) =
      (readShape shape endsLine words).map fun reading =>
        (foldGroups fold reading.1, reading.2) := by
  induction shape with
  | nil => rfl
  | cons tests shape inductionHypothesis =>
      have later := inductionHypothesis fun others member =>
        alike others (List.mem_cons_of_mem tests member)
      simp only [readShape] at later
      simp only [readShape, List.findSome?_cons, later,
        readWords_fold (alike tests List.mem_cons_self)]
      cases readWords tests endsLine words <;> rfl

theorem markRow_fold (row : List (List Symbol)) :
    markRow (row.map fun word => word.map fold) =
      (markRow row).map (foldWord fold) := by
  induction row with
  | nil => rfl
  | cons word words inductionHypothesis =>
      rw [List.map_cons, markRow, inductionHypothesis, markRow,
        List.map_cons, List.isEmpty_map]
      rfl

theorem markRows_fold (rows : List (List (List Symbol))) :
    markRows (foldRows fold rows) = (markRows rows).map (foldWord fold) := by
  simp only [markRows, foldRows, List.flatMap_map, List.map_flatMap,
    markRow_fold]

/-- What is read from each row on is the same of folded rows, folded. -/
theorem readings_fold
    (alike : ∀ tests ∈ shape, ∀ test ∈ tests, FoldsAlike fold test)
    (rows : List (List (List Symbol))) :
    readings shape (foldRows fold rows) =
      (readings shape rows).map (foldGroups fold) := by
  induction rows with
  | nil =>
      simp [readings, foldRows, readRows, markRows, readShape_nil]
  | cons row rows inductionHypothesis =>
      have first :
          readRows shape (foldRows fold (row :: rows)) =
            (readRows shape (row :: rows)).map fun reading =>
              (foldGroups fold reading.1, reading.2) := by
        rw [readRows, markRows_fold]
        exact readShape_fold alike false _
      have split :
          foldRows fold (row :: rows) =
            (row.map fun word => word.map fold) :: foldRows fold rows :=
        rfl
      rw [split] at first ⊢
      rw [readings_cons, readings_cons, first, inductionHypothesis,
        List.map_append]
      cases readRows shape (row :: rows) <;> rfl

end Readings

section Texts

variable {alphabet : LineAlphabet Symbol}
variable {pattern : Pattern Name Symbol}
variable {shape : List (List (WordTest Name Symbol))}
variable {first second : List Symbol}

/-- A search finds the same in texts with the same folded words. -/
theorem ReadsRows.search_alike
    (readsRows : ReadsRows alphabet pattern shape)
    (alike : ∀ tests ∈ shape, ∀ test ∈ tests, FoldsAlike fold test)
    (sameWords :
      foldRows fold (rowsOf alphabet first) =
        foldRows fold (rowsOf alphabet second)) :
    (pattern.search first).map (fun found => foldGroups fold found.groups) =
      (pattern.search second).map fun found =>
        foldGroups fold found.groups := by
  have folded : ∀ text,
      (pattern.search text).map (fun found => foldGroups fold found.groups) =
        (readings shape (foldRows fold (rowsOf alphabet text))).head? := by
    intro text
    rw [readings_fold alike, List.head?_map,
      ← readsRows.search_groups text, Option.map_map]
    rfl
  rw [folded, folded, sameWords]

/-- An iteration lists the same in texts with the same folded words. -/
theorem ReadsRows.findIter_alike
    (readsRows : ReadsRows alphabet pattern shape)
    (keyed : Keyed shape)
    (alike : ∀ tests ∈ shape, ∀ test ∈ tests, FoldsAlike fold test)
    (sameWords :
      foldRows fold (rowsOf alphabet first) =
        foldRows fold (rowsOf alphabet second)) :
    (pattern.findIter first).map (fun found =>
        foldGroups fold found.groups) =
      (pattern.findIter second).map fun found =>
        foldGroups fold found.groups := by
  have folded : ∀ text,
      (pattern.findIter text).map (fun found =>
          foldGroups fold found.groups) =
        readings shape (foldRows fold (rowsOf alphabet text)) := by
    intro text
    rw [readings_fold alike, ← readsRows.findIter_groups keyed text,
      List.map_map]
    rfl
  rw [folded, folded, sameWords]

end Texts

end BacktrackingRegex
