import SafeSignalTrader.WordScanning

/-!
# Values on one line

A line pattern over words reads lines from the first word of a line to the
last word of that or a later line.  Whether each value it finds is also found
on a single line of the text is decided by the words of the lines.
-/

namespace BacktrackingRegex

open Match Pattern

variable {Name Symbol Value : Type}

section Texts

variable {alphabet : LineAlphabet Symbol}
variable {pattern core : Pattern Name Symbol}
variable {shape : List (List (WordTest Name Symbol))}

/-- A pattern finds in every text what a scan of its rows reads. -/
def ReadsRows
    (alphabet : LineAlphabet Symbol)
    (pattern : Pattern Name Symbol)
    (shape : List (List (WordTest Name Symbol))) : Prop :=
  ∀ text,
    (pattern.findIter text).map Match.groups =
      scanFrom shape 0 true (markRows (rowsOf alphabet text))

/-- A line pattern over words reads rows. -/
theorem readsRows_of_readsLines
    (readsLines : ReadsLines alphabet core shape) :
    ReadsRows alphabet (linePattern alphabet core) shape := by
  intro text
  obtain ⟨gap, body, isText, gapInside, laid⟩ := exists_laid alphabet text
  have found :=
    @ReadsLines.findIterFrom_groups Name Symbol alphabet core shape none gap
      body _ readsLines laid gapInside true
      (fun _ => ⟨fun _ => Or.inl rfl, fun _ => rfl⟩)
  rw [← isText] at found
  exact found

/-- A search gives what is read from the first row that is read. -/
theorem ReadsRows.search_groups
    (readsRows : ReadsRows alphabet pattern shape)
    (text : List Symbol) :
    (pattern.search text).map Match.groups =
      (readings shape (rowsOf alphabet text)).head? := by
  rw [search_eq_head?, ← List.head?_map, readsRows text,
    head?_scanFrom rowsOf_nonempty]

/-- An iteration of a keyed shape lists what is read from each row on. -/
theorem ReadsRows.findIter_groups
    (readsRows : ReadsRows alphabet pattern shape)
    (keyed : Keyed shape)
    (text : List Symbol) :
    (pattern.findIter text).map Match.groups =
      readings shape (rowsOf alphabet text) := by
  rw [readsRows text, scanFrom_keyed keyed rowsOf_nonempty]

end Texts

section Rows

variable {alphabet : LineAlphabet Symbol}

/-- The rows of a text are the words of its lines. -/
theorem mem_rowsOf_iff
    {text : List Symbol}
    {row : List (List Symbol)} :
    row ∈ rowsOf alphabet text ↔
      row ≠ [] ∧ ∃ line ∈ text.splitOnP alphabet.isBreak,
        wordsOf alphabet.isGap line = row := by
  rw [rowsOf, List.mem_filter, List.mem_map, Bool.not_eq_true',
    ← Bool.not_eq_true, List.isEmpty_iff, and_comm]

/-- No piece of a split text holds a separator. -/
theorem unseparated_of_mem_splitOnP
    {separates : Symbol → Bool}
    {text piece : List Symbol}
    (member : piece ∈ text.splitOnP separates) :
    ∀ symbol ∈ piece, separates symbol = false := by
  induction text using splitting_induction separates with
  | last whole unseparated =>
      rw [List.splitOnP_eq_singleton unseparated, List.mem_singleton]
        at member
      rw [member]
      exact unseparated
  | step first symbol rest unseparated isSeparator inductionHypothesis =>
      rw [List.splitOnP_append_cons_of_forall_mem unseparated symbol
        isSeparator] at member
      rcases List.mem_cons.mp member with isFirst | inRest
      · rw [isFirst]
        exact unseparated
      · exact inductionHypothesis inRest

end Rows

section Values

variable (shape : List (List (WordTest Name Symbol)))
variable (value : List (Name × List Symbol) → Option Value)

/-- What is read from the first row that is read goes over its end. -/
inductive FirstGoesOver :
    List (List (List Symbol)) → List (Name × List Symbol) → Prop where
  | here
      {row : List (List Symbol)}
      {later : List (List (List Symbol))}
      {groups : List (Name × List Symbol)}
      {count : Nat}
      (read : readRows shape (row :: later) = some (groups, count))
      (beyond : row.length < count) :
      FirstGoesOver (row :: later) groups
  | later
      {row : List (List Symbol)}
      {later : List (List (List Symbol))}
      {groups : List (Name × List Symbol)}
      (unread : readRows shape (row :: later) = none)
      (others : FirstGoesOver later groups) :
      FirstGoesOver (row :: later) groups

/-- What is read from some row goes over its end. -/
def GoesOver
    (rows : List (List (List Symbol)))
    (groups : List (Name × List Symbol)) : Prop :=
  ∃ row later count, row :: later ∈ rows.tails ∧
    readRows shape (row :: later) = some (groups, count) ∧
      row.length < count

/-- A row by itself says a value. -/
def SaidByRow (rows : List (List (List Symbol))) (said : Value) : Prop :=
  ∃ row ∈ rows, ∃ reading, readRows shape [row] = some reading ∧
    value reading.1 = some said

/-- The first value goes over a line end, and no line says it by itself. -/
def FirstSplit (rows : List (List (List Symbol))) : Prop :=
  ∃ groups said, FirstGoesOver shape rows groups ∧
    value groups = some said ∧ ¬ SaidByRow shape value rows said

/-- Some value goes over a line end, and no line says it by itself. -/
def SomeSplit (rows : List (List (List Symbol))) : Prop :=
  ∃ groups said, GoesOver shape rows groups ∧
    value groups = some said ∧ ¬ SaidByRow shape value rows said

variable {shape value}
variable {alphabet : LineAlphabet Symbol}
variable {pattern : Pattern Name Symbol}
variable {rows : List (List (List Symbol))}
variable {groups : List (Name × List Symbol)}

theorem readings_nil : readings shape [] = [] := by
  have nothing : readRows shape [] = none := readShape_nil shape
  simp [readings, nothing]

theorem FirstGoesOver.head?_readings
    (goesOver : FirstGoesOver shape rows groups) :
    (readings shape rows).head? = some groups := by
  induction goesOver with
  | here read beyond =>
      rw [readings, List.tails_cons, List.filterMap_cons, read]
      rfl
  | later unread others inductionHypothesis =>
      rw [readings, List.tails_cons, List.filterMap_cons, unread]
      exact inductionHypothesis

/-- What is read first goes over a line end, or is read from one row. -/
theorem firstGoesOver_or_alone
    (isFirst : (readings shape rows).head? = some groups) :
    FirstGoesOver shape rows groups ∨
      ∃ row ∈ rows, ∃ count, readRows shape [row] = some (groups, count) := by
  induction rows with
  | nil =>
      rw [readings_nil] at isFirst
      cases isFirst
  | cons row later inductionHypothesis =>
      rw [readings, List.tails_cons, List.filterMap_cons] at isFirst
      cases read : readRows shape (row :: later) with
      | none =>
          rw [read] at isFirst
          rcases inductionHypothesis isFirst with goesOver | alone
          · exact Or.inl (.later read goesOver)
          · obtain ⟨other, member, reads⟩ := alone
            exact Or.inr ⟨other, List.mem_cons_of_mem row member, reads⟩
      | some reading =>
          obtain ⟨captures, count⟩ := reading
          rw [read] at isFirst
          cases isFirst
          rcases Nat.lt_or_ge row.length count with beyond | within
          · exact Or.inl (.here read beyond)
          · exact Or.inr ⟨row, List.mem_cons_self, count,
              readRows_alone read within⟩

/-- What is read from a row on goes over its end, or is read from one row. -/
theorem goesOver_or_alone
    (isRead : groups ∈ readings shape rows) :
    GoesOver shape rows groups ∨
      ∃ row ∈ rows, ∃ count, readRows shape [row] = some (groups, count) := by
  obtain ⟨others, isTail, read⟩ := List.mem_filterMap.mp isRead
  obtain ⟨⟨captures, count⟩, reads, rfl⟩ := Option.map_eq_some_iff.mp read
  cases others with
  | nil =>
      rw [readRows, markRows, List.flatMap_nil, readShape_nil] at reads
      cases reads
  | cons row later =>
      rcases Nat.lt_or_ge row.length count with beyond | within
      · exact Or.inl ⟨row, later, count, isTail, reads, beyond⟩
      · have member : row ∈ rows :=
          ((List.mem_tails _ _).mp isTail).subset List.mem_cons_self
        exact Or.inr ⟨row, member, count, readRows_alone reads within⟩

theorem GoesOver.mem_readings
    (goesOver : GoesOver shape rows groups) :
    groups ∈ readings shape rows := by
  obtain ⟨row, later, count, isTail, read, _⟩ := goesOver
  refine List.mem_filterMap.mpr ⟨row :: later, isTail, ?_⟩
  rw [read]
  rfl

/-- A line says a value exactly if its words do. -/
theorem ReadsRows.saidByRow_iff
    (readsRows : ReadsRows alphabet pattern shape)
    (text : List Symbol)
    (said : Value) :
    SaidByRow shape value (rowsOf alphabet text) said ↔
      ∃ line ∈ text.splitOnP alphabet.isBreak, ∃ found,
        pattern.search line = some found ∧
          value found.groups = some said := by
  have onLine :
      ∀ line ∈ text.splitOnP alphabet.isBreak,
        (pattern.search line).map Match.groups =
          (readRows shape [wordsOf alphabet.isGap line]).map Prod.fst := by
    intro line member
    rw [readsRows.search_groups,
      rowsOf_of_unbroken (unseparated_of_mem_splitOnP member)]
    split
    · next noWords =>
        have blank : readRows shape [[]] = none := readShape_nil shape
        rw [noWords, blank, readings_nil]
        rfl
    · rw [readings, List.tails_cons, List.filterMap_cons]
      cases readRows shape [wordsOf alphabet.isGap line] with
      | none =>
          have rest := @readings_nil Name Symbol shape
          rw [readings] at rest
          rw [Option.map_none, rest]
          rfl
      | some reading => rfl
  constructor
  · rintro ⟨row, member, reading, read, tells⟩
    obtain ⟨_, line, isLine, rfl⟩ := mem_rowsOf_iff.mp member
    have located := onLine line isLine
    rw [read] at located
    obtain ⟨found, isFound, captures⟩ := Option.map_eq_some_iff.mp located
    refine ⟨line, isLine, found, isFound, ?_⟩
    rw [captures]
    exact tells
  · rintro ⟨line, isLine, found, isFound, tells⟩
    have located := onLine line isLine
    rw [isFound] at located
    obtain ⟨reading, read, captures⟩ :=
      Option.map_eq_some_iff.mp located.symm
    have nonempty : wordsOf alphabet.isGap line ≠ [] := by
      intro noWords
      rw [noWords] at read
      have blank : readRows shape [[]] = none := readShape_nil shape
      rw [blank] at read
      cases read
    refine ⟨_, mem_rowsOf_iff.mpr ⟨nonempty, line, isLine, rfl⟩, reading,
      read, ?_⟩
    rw [captures]
    exact tells

/-- The value of a search is on one line exactly if it is not split. -/
theorem ReadsRows.search_onOneLine_iff
    (readsRows : ReadsRows alphabet pattern shape)
    (text : List Symbol) :
    (∀ found said, pattern.search text = some found →
        value found.groups = some said →
          ∃ line ∈ text.splitOnP alphabet.isBreak, ∃ onLine,
            pattern.search line = some onLine ∧
              value onLine.groups = some said) ↔
      ¬ FirstSplit shape value (rowsOf alphabet text) := by
  have searched := readsRows.search_groups text
  constructor
  · rintro onOneLine ⟨groups, said, goesOver, tells, unsaid⟩
    rw [goesOver.head?_readings] at searched
    obtain ⟨found, isFound, rfl⟩ := Option.map_eq_some_iff.mp searched
    exact unsaid ((readsRows.saidByRow_iff text said).mpr
      (onOneLine found said isFound tells))
  · intro unsplit found said isFound tells
    rw [isFound] at searched
    rw [← readsRows.saidByRow_iff text said]
    rcases firstGoesOver_or_alone searched.symm with goesOver | alone
    · by_contra unsaid
      exact unsplit ⟨found.groups, said, goesOver, tells, unsaid⟩
    · obtain ⟨row, member, count, read⟩ := alone
      exact ⟨row, member, _, read, tells⟩

/-- The values of an iteration are on one line each iff none is split. -/
theorem ReadsRows.findIter_onOneLine_iff
    (readsRows : ReadsRows alphabet pattern shape)
    (keyed : Keyed shape)
    (text : List Symbol) :
    (∀ found said, found ∈ pattern.findIter text →
        value found.groups = some said →
          ∃ line ∈ text.splitOnP alphabet.isBreak, ∃ onLine,
            pattern.search line = some onLine ∧
              value onLine.groups = some said) ↔
      ¬ SomeSplit shape value (rowsOf alphabet text) := by
  have listed := readsRows.findIter_groups keyed text
  constructor
  · rintro onOneLine ⟨groups, said, goesOver, tells, unsaid⟩
    have member := goesOver.mem_readings
    rw [← listed] at member
    obtain ⟨found, isFound, rfl⟩ := List.mem_map.mp member
    exact unsaid ((readsRows.saidByRow_iff text said).mpr
      (onOneLine found said isFound tells))
  · intro unsplit found said isFound tells
    have member : found.groups ∈ readings shape (rowsOf alphabet text) := by
      rw [← listed]
      exact List.mem_map_of_mem isFound
    rw [← readsRows.saidByRow_iff text said]
    rcases goesOver_or_alone member with goesOver | alone
    · by_contra unsaid
      exact unsplit ⟨found.groups, said, goesOver, tells, unsaid⟩
    · obtain ⟨row, inRows, count, read⟩ := alone
      exact ⟨row, inRows, _, read, tells⟩

/-- The first reading that goes over a line end is one that does. -/
theorem FirstGoesOver.goesOver
    (first : FirstGoesOver shape rows groups) :
    GoesOver shape rows groups := by
  induction first with
  | @here row later groups count read beyond =>
      refine ⟨row, later, count, ?_, read, beyond⟩
      rw [List.tails_cons]
      exact List.mem_cons_self
  | later unread others inductionHypothesis =>
      obtain ⟨row, later, count, isTail, read, beyond⟩ :=
        inductionHypothesis
      refine ⟨row, later, count, ?_, read, beyond⟩
      rw [List.tails_cons]
      exact List.mem_cons_of_mem _ isTail

/-- No reading of a shape goes over the end of the row where it starts. -/
def KeepsRows
    (shape : List (List (WordTest Name Symbol)))
    (rows : List (List (List Symbol))) : Bool :=
  rows.tails.all fun rows =>
    match rows with
    | [] => true
    | row :: later =>
        (readRows shape (row :: later)).all fun reading =>
          reading.2 ≤ row.length

/-- Where every reading keeps to its row, no value is split. -/
theorem not_someSplit_of_keepsRows
    (keeps : KeepsRows shape rows = true) :
    ¬ SomeSplit shape value rows := by
  rintro ⟨groups, said, ⟨row, later, count, isTail, read, beyond⟩, _⟩
  have within := List.all_eq_true.mp keeps _ isTail
  simp only [read, Option.all_some, decide_eq_true_eq] at within
  exact Nat.not_lt.mpr within beyond

theorem not_firstSplit_of_keepsRows
    (keeps : KeepsRows shape rows = true) :
    ¬ FirstSplit shape value rows := by
  rintro ⟨groups, said, first, tells, unsaid⟩
  exact not_someSplit_of_keepsRows keeps
    ⟨groups, said, first.goesOver, tells, unsaid⟩

end Values

end BacktrackingRegex
