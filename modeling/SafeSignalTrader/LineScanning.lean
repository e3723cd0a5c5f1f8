import SafeSignalTrader.FirstMatch

/-!
# Scanning a text line by line

A line pattern is anchored at a line start, skips a gap and reads one item of
a line.  Gaps may hold line breaks, so a match can start lines before its item
and end lines after it.  Over items that are separated by line breaks, such a
pattern still finds every item it reads, once and in order.
-/

namespace BacktrackingRegex

open Match

/-- The symbols of line breaks, of gaps, and of the starts of items. -/
structure LineAlphabet (Symbol : Type) where
  isBreak : Symbol → Bool
  isGap : Symbol → Bool
  opens : Symbol → Bool
  gapOfBreak : ∀ symbol, isBreak symbol = true → isGap symbol = true
  opensOutsideGap : ∀ symbol, opens symbol = true → isGap symbol = false

namespace Pattern

variable {Name Symbol Item : Type}

section Scanning

variable {pattern : Pattern Name Symbol}
variable {behind : Option Symbol}

/-- The first match is the first of all matches that do not overlap. -/
theorem searchFrom_eq_head?
    (pattern : Pattern Name Symbol)
    (behind : Option Symbol)
    (text : List Symbol) :
    pattern.searchFrom behind text =
      (pattern.findIterFrom 0 behind text).head? := by
  induction text generalizing behind with
  | nil =>
      rw [searchFrom, findIterFrom, if_pos rfl]
      cases pattern.matchAt ⟨behind, []⟩ with
      | none => rfl
      | some found => rfl
  | cons symbol rest inductionHypothesis =>
      rw [searchFrom, findIterFrom]
      cases pattern.matchAt ⟨behind, symbol :: rest⟩ with
      | none => exact inductionHypothesis (some symbol)
      | some found => rfl

/-- A search gives the first match of an iteration. -/
theorem search_eq_head?
    (pattern : Pattern Name Symbol)
    (text : List Symbol) :
    pattern.search text = (pattern.findIter text).head? :=
  searchFrom_eq_head? pattern none text

/-- The symbols of the last match are skipped. -/
theorem findIterFrom_skip (text rest : List Symbol) :
    pattern.findIterFrom text.length behind (text ++ rest) =
      pattern.findIterFrom 0 (after behind text) rest := by
  induction text generalizing behind with
  | nil => rfl
  | cons symbol others inductionHypothesis =>
      exact inductionHypothesis

/-- A match is listed, and the scan goes on behind it. -/
theorem findIterFrom_hit
    {found : Match Name Symbol}
    {text rest : List Symbol}
    (isText : found.text = text)
    (nonempty : text ≠ [])
    (matched : pattern.matchAt ⟨behind, text ++ rest⟩ = some found) :
    pattern.findIterFrom 0 behind (text ++ rest) =
      found :: pattern.findIterFrom 0 (after behind text) rest := by
  obtain ⟨symbol, others, rfl⟩ := List.exists_cons_of_ne_nil nonempty
  rw [List.cons_append] at matched
  rw [List.cons_append, findIterFrom, matched]
  dsimp only
  rw [isText]
  exact congrArg (found :: ·) (findIterFrom_skip others rest)

/-- Where nothing matches, the scan passes. -/
theorem findIterFrom_pass
    {text rest : List Symbol}
    (dead : ∀ before symbol others, text = before ++ symbol :: others →
      pattern.matchAt ⟨after behind before, symbol :: others ++ rest⟩ =
        none) :
    pattern.findIterFrom 0 behind (text ++ rest) =
      pattern.findIterFrom 0 (after behind text) rest := by
  induction text generalizing behind with
  | nil => rfl
  | cons symbol others inductionHypothesis =>
      have here := dead [] symbol others rfl
      rw [after_nil, List.cons_append] at here
      rw [List.cons_append, findIterFrom, here]
      apply inductionHypothesis
      intro before next remaining shape
      exact dead (symbol :: before) next remaining (by rw [shape]; rfl)

end Scanning

section Lines

variable (alphabet : LineAlphabet Symbol)

/-- A pattern for one item of a line, after a gap. -/
def linePattern (core : Pattern Name Symbol) : Pattern Name Symbol :=
  .seq (lineStart alphabet.isBreak) (.seq (.many alphabet.isGap) core)

variable {alphabet}
variable {core : Pattern Name Symbol}
variable {behind : Option Symbol}

/-- A line pattern matches at line starts only. -/
theorem matchAt_linePattern_inside
    (inside : behind.all alphabet.isBreak = false)
    (ahead : List Symbol) :
    (linePattern alphabet core).matchAt ⟨behind, ahead⟩ = none := by
  rw [matchAt_eq_firstThat, linePattern, firstThat_seq, lineStart,
    firstThat_anchor, if_neg (by simp [inside])]

/-- At a line start a line pattern skips the gap and matches its core. -/
theorem matchAt_linePattern
    (refusesGap : ∀ behind symbol rest, alphabet.isGap symbol = true →
      core.matchAt ⟨behind, symbol :: rest⟩ = none)
    {gap body : List Symbol}
    (gapInside : ∀ symbol ∈ gap, alphabet.isGap symbol = true)
    (gapEnds : ∀ symbol ∈ body.head?, alphabet.isGap symbol = false)
    (atStart : behind.all alphabet.isBreak = true) :
    (linePattern alphabet core).matchAt ⟨behind, gap ++ body⟩ =
      (core.matchAt ⟨after behind gap, body⟩).map
        (stretch behind gap body).andThen := by
  have onwards :
      ∀ (leading : Match Name Symbol),
        (core.firstThat leading.stop fun trailing =>
          some ((still ⟨behind, gap ++ body⟩).andThen
            (leading.andThen trailing))) =
          (core.matchAt leading.stop).map leading.andThen :=
    fun leading => firstThat_some core leading.stop leading.andThen
  rw [matchAt_eq_firstThat, linePattern, firstThat_seq, lineStart,
    firstThat_anchor, if_pos atStart, firstThat_seq]
  simp only [onwards]
  apply firstThat_many_greedy gapInside gapEnds
  intro before symbol others shape
  have isGap : alphabet.isGap symbol = true := by
    apply gapInside
    rw [shape]
    exact List.mem_append_right _ List.mem_cons_self
  rw [stretch_stop, List.cons_append, refusesGap _ _ _ isGap]
  rfl

/-- Where the core refuses what follows a gap, the line pattern does. -/
theorem matchAt_linePattern_refused
    (refusesGap : ∀ behind symbol rest, alphabet.isGap symbol = true →
      core.matchAt ⟨behind, symbol :: rest⟩ = none)
    {gap body : List Symbol}
    (gapInside : ∀ symbol ∈ gap, alphabet.isGap symbol = true)
    (gapEnds : ∀ symbol ∈ body.head?, alphabet.isGap symbol = false)
    (refused : ∀ behind, core.matchAt ⟨behind, body⟩ = none) :
    (linePattern alphabet core).matchAt ⟨behind, gap ++ body⟩ = none := by
  cases atStart : behind.all alphabet.isBreak with
  | false => exact matchAt_linePattern_inside atStart _
  | true =>
      rw [matchAt_linePattern refusesGap gapInside gapEnds atStart, refused]
      rfl

/-- In a gap at the end of a text a scan finds nothing. -/
theorem findIterFrom_lastGap
    (refusesGap : ∀ behind symbol rest, alphabet.isGap symbol = true →
      core.matchAt ⟨behind, symbol :: rest⟩ = none)
    (refusesEnd : ∀ behind, core.matchAt ⟨behind, []⟩ = none)
    {gap : List Symbol}
    (gapInside : ∀ symbol ∈ gap, alphabet.isGap symbol = true) :
    (linePattern alphabet core).findIterFrom 0 behind gap = [] := by
  have refusesRest :
      ∀ behind left, (∀ symbol ∈ left, alphabet.isGap symbol = true) →
        (linePattern alphabet core).matchAt ⟨behind, left⟩ = none := by
    intro behind left leftInside
    have refused :=
      @matchAt_linePattern_refused Name Symbol alphabet core behind
        refusesGap left [] leftInside (by simp) refusesEnd
    rw [List.append_nil] at refused
    exact refused
  have passed :
      (linePattern alphabet core).findIterFrom 0 behind (gap ++ []) =
        (linePattern alphabet core).findIterFrom 0 (after behind gap) [] := by
    apply findIterFrom_pass
    intro before symbol others shape
    rw [List.append_nil]
    apply refusesRest
    intro other member
    apply gapInside
    rw [shape]
    exact List.mem_append_right before member
  rw [List.append_nil] at passed
  rw [passed, findIterFrom, if_pos rfl, refusesRest _ [] (by simp)]
  rfl

/-- A piece of a line is passed with the gap before it. -/
theorem findIterFrom_piece
    {gap piece rest : List Symbol}
    (unbroken : ∀ symbol ∈ piece, alphabet.isBreak symbol = false)
    (dead : ∀ before left, gap = before ++ left →
      (linePattern alphabet core).matchAt
        ⟨after behind before, left ++ (piece ++ rest)⟩ = none) :
    (linePattern alphabet core).findIterFrom 0 behind
        (gap ++ (piece ++ rest)) =
      (linePattern alphabet core).findIterFrom 0
        (after behind (gap ++ piece)) rest := by
  rw [← List.append_assoc]
  apply findIterFrom_pass
  intro before symbol others shape
  rcases List.append_eq_append_iff.mp shape with inPiece | inGap
  · obtain ⟨passed, isBefore, inside⟩ := inPiece
    rw [isBefore, after_append]
    by_cases atPiece : passed = []
    · subst atPiece
      rw [List.nil_append] at inside
      rw [← inside]
      exact dead gap [] (List.append_nil gap).symm
    · obtain ⟨last, member, isLast⟩ := after_mem atPiece
      rw [isLast]
      apply matchAt_linePattern_inside
      apply unbroken
      rw [inside]
      exact List.mem_append_left _ member
  · obtain ⟨left, isGap, isAhead⟩ := inGap
    rw [isAhead, List.append_assoc]
    exact dead before left isGap

/-- A scan passes a gap up to its first line start. -/
theorem findIterFrom_lineStart
    {gap : List Symbol}
    (reachesStart : behind.all alphabet.isBreak = true ∨
      ∃ symbol ∈ gap, alphabet.isBreak symbol = true)
    (rest : List Symbol) :
    ∃ before left, gap = before ++ left ∧
      (after behind before).all alphabet.isBreak = true ∧
        (linePattern alphabet core).findIterFrom 0 behind (gap ++ rest) =
          (linePattern alphabet core).findIterFrom 0 (after behind before)
            (left ++ rest) := by
  induction gap generalizing behind with
  | nil =>
      exact ⟨[], [], rfl, reachesStart.resolve_right (by simp), rfl⟩
  | cons symbol gap inductionHypothesis =>
      cases atStart : behind.all alphabet.isBreak with
      | true => exact ⟨[], symbol :: gap, rfl, atStart, rfl⟩
      | false =>
          have reachesNext :
              (some symbol).all alphabet.isBreak = true ∨
                ∃ next ∈ gap, alphabet.isBreak next = true := by
            rcases reachesStart with started | ⟨next, member, isBreak⟩
            · rw [atStart] at started
              cases started
            · rcases List.mem_cons.mp member with rfl | inRest
              · exact Or.inl isBreak
              · exact Or.inr ⟨next, inRest, isBreak⟩
          obtain ⟨before, left, shape, isStart, passed⟩ :=
            inductionHypothesis reachesNext
          refine ⟨symbol :: before, left, by rw [shape]; rfl, isStart, ?_⟩
          rw [List.cons_append, findIterFrom,
            matchAt_linePattern_inside atStart]
          exact passed

theorem firstThat_lineEnd
    {Result : Type}
    {cursor : Cursor Symbol}
    {accept : Match Name Symbol → Option Result} :
    (sequence [lineEnd alphabet.isBreak]).firstThat cursor accept =
      if cursor.ahead.head?.all alphabet.isBreak then accept (still cursor)
      else none := by
  rw [firstThat_sequence_singleton, lineEnd, firstThat_anchor]

/-- A gap behind an item: the text ends with it, or it breaks the line. -/
structure EndsLine
    (alphabet : LineAlphabet Symbol)
    (gap rest : List Symbol) : Prop where
  inside : ∀ symbol ∈ gap, alphabet.isGap symbol = true
  opens : ∀ symbol ∈ rest.head?, alphabet.opens symbol = true
  separated : rest = [] ∨ ∃ symbol ∈ gap, alphabet.isBreak symbol = true

/-- What comes behind an item is in the gap, if anything comes. -/
theorem EndsLine.head_isGap
    {gap rest : List Symbol}
    (ends : EndsLine alphabet gap rest) :
    ∀ symbol ∈ (gap ++ rest).head?, alphabet.isGap symbol = true := by
  intro symbol isHead
  cases shape : gap with
  | cons first others =>
      rw [shape, List.cons_append, List.head?_cons, Option.mem_some_iff]
        at isHead
      apply ends.inside
      rw [shape, ← isHead]
      exact List.mem_cons_self
  | nil =>
      rcases ends.separated with atEnd | breaks
      · rw [shape, atEnd] at isHead
        cases isHead
      · obtain ⟨_, member, _⟩ := breaks
        rw [shape] at member
        cases member

/-- The start of an item ends a gap. -/
theorem EndsLine.gapEnds
    {gap rest : List Symbol}
    (ends : EndsLine alphabet gap rest) :
    ∀ symbol ∈ rest.head?, alphabet.isGap symbol = false :=
  fun symbol isHead =>
    alphabet.opensOutsideGap symbol (ends.opens symbol isHead)

/-- A pattern reads a text and its gap up to a line end. -/
def ReadsLine
    (alphabet : LineAlphabet Symbol)
    (pattern : Pattern Name Symbol)
    (text : List Symbol)
    (groups : List (Name × List Symbol))
    (gap rest : List Symbol) : Prop :=
  ∀ behind, ∃ before others, gap = before ++ others ∧
    (∀ symbol ∈ (others ++ rest).head?, alphabet.isBreak symbol = true) ∧
    pattern.matchAt ⟨behind, text ++ (gap ++ rest)⟩ =
      some ⟨text ++ before, groups,
        ⟨after behind (text ++ before), others ++ rest⟩⟩

/-- A text that the first part takes is read together with the rest. -/
theorem ReadsLine.cons
    {first : Pattern Name Symbol}
    {patterns : List (Pattern Name Symbol)}
    {text more gap rest : List Symbol}
    {groups others : List (Name × List Symbol)}
    (onwards :
      ReadsLine alphabet (sequence patterns) more others gap rest)
    (taken : Takes first text groups (more ++ (gap ++ rest))) :
    ReadsLine alphabet (sequence (first :: patterns)) (text ++ more)
      (groups ++ others) gap rest := by
  intro behind
  obtain ⟨before, left, shape, atBreak, found⟩ :=
    onwards (after behind text)
  refine ⟨before, left, shape, atBreak, ?_⟩
  rw [List.append_assoc, taken.matchAt_sequence found]
  simp [Match.andThen, after_append]

/-- The end of a line pattern reads the gap up to a line end. -/
theorem readsLine_gap
    {gap rest : List Symbol}
    (gapInside : ∀ symbol ∈ gap, alphabet.isGap symbol = true)
    (gapEnds : ∀ symbol ∈ rest.head?, alphabet.isGap symbol = false)
    (separated : rest = [] ∨
      ∃ symbol ∈ gap, alphabet.isBreak symbol = true) :
    @ReadsLine Name Symbol alphabet
      (sequence [.many alphabet.isGap, lineEnd alphabet.isBreak]) [] []
      gap rest := by
  intro behind
  have reached :
      ∃ before others, gap = before ++ others ∧
        (others ++ rest).head?.all alphabet.isBreak = true := by
    rcases separated with atEnd | breaks
    · subst atEnd
      exact ⟨gap, [], by simp, rfl⟩
    · obtain ⟨symbol, member, isBreak⟩ := breaks
      obtain ⟨before, others, shape⟩ := List.append_of_mem member
      exact ⟨before, symbol :: others, shape, isBreak⟩
  obtain ⟨before, others, shape, atBreak⟩ := reached
  have atLineEnd :
      ∀ before others,
        ((sequence [lineEnd alphabet.isBreak] :
            Pattern Name Symbol).firstThat
              (stretch behind before (others ++ rest) :
                Match Name Symbol).stop fun trailing =>
            some ((stretch behind before (others ++ rest)).andThen
              trailing)) =
          if (others ++ rest).head?.all alphabet.isBreak then
            some (stretch behind before (others ++ rest))
          else
            none := by
    intro before others
    rw [firstThat_lineEnd]
    simp only [Match.andThen, still, stretch, List.append_nil]
  have taken :=
    @firstThat_many_isSome Name Symbol (Match Name Symbol) alphabet.isGap
      behind gap rest
      (fun leading =>
        (sequence [lineEnd alphabet.isBreak]).firstThat leading.stop
          fun trailing => some (leading.andThen trailing))
      gapInside gapEnds before others shape
      (by rw [atLineEnd, if_pos atBreak]; rfl)
  obtain ⟨found, isFound⟩ := Option.isSome_iff_exists.mp taken
  obtain ⟨before, others, shape, accepted⟩ :=
    exists_of_firstThat_many gapInside gapEnds isFound
  rw [atLineEnd] at accepted
  split at accepted
  · next atBreak =>
      refine ⟨before, others, shape, ?_, ?_⟩
      · intro symbol first
        rw [first] at atBreak
        exact atBreak
      · rw [List.nil_append, List.nil_append, matchAt_eq_firstThat,
          firstThat_sequence_cons, isFound]
        exact accepted.symm
  · cases accepted

/-- The end of a line pattern reads the gap behind an item. -/
theorem readsLine_lineEnd
    {gap rest : List Symbol}
    (ends : EndsLine alphabet gap rest) :
    @ReadsLine Name Symbol alphabet
      (sequence [.many alphabet.isGap, lineEnd alphabet.isBreak]) [] []
      gap rest :=
  readsLine_gap ends.inside ends.gapEnds ends.separated

end Lines

section Items

variable (alphabet : LineAlphabet Symbol)
variable (core : Pattern Name Symbol)
variable (itemText : Item → List Symbol)
variable (reading : Item → Option (List (Name × List Symbol)))

/--
What a core does on items: it reads some of them, up to a break in the gap
behind them, and refuses the others, gaps and the end of the text.
-/
structure ReadsItems : Prop where
  startOpens : ∀ item, ∃ symbol rest,
    itemText item = symbol :: rest ∧ alphabet.opens symbol = true
  unbroken : ∀ item, ∀ symbol ∈ itemText item,
    alphabet.isBreak symbol = false
  refusesGap : ∀ behind symbol rest, alphabet.isGap symbol = true →
    core.matchAt ⟨behind, symbol :: rest⟩ = none
  refusesEnd : ∀ behind, core.matchAt ⟨behind, []⟩ = none
  refuses : ∀ item behind rest, reading item = none →
    core.matchAt ⟨behind, itemText item ++ rest⟩ = none
  reads : ∀ item groups gap rest, reading item = some groups →
    EndsLine alphabet gap rest →
      ReadsLine alphabet core (itemText item) groups gap rest

/-- A text of items, each with the gap behind it. -/
def itemsText : List (Item × List Symbol) → List Symbol
  | [] => []
  | (item, gap) :: rest => itemText item ++ (gap ++ itemsText rest)

/-- The gap behind every item but the last holds a line break. -/
def Separated : List (Item × List Symbol) → Prop
  | [] => True
  | (_, gap) :: rest =>
      (∀ symbol ∈ gap, alphabet.isGap symbol = true) ∧
        (rest = [] ∨ ∃ symbol ∈ gap, alphabet.isBreak symbol = true) ∧
          Separated rest

variable {alphabet core itemText reading}
variable {behind : Option Symbol}
variable {item : Item}
variable {gap rest : List Symbol}
variable {items : List (Item × List Symbol)}

/-- A text of items that is not empty starts with an item. -/
theorem ReadsItems.itemsText_opens
    (readsItems : ReadsItems alphabet core itemText reading) :
    ∀ symbol ∈ (itemsText itemText items).head?,
      alphabet.opens symbol = true := by
  cases items with
  | nil => simp [itemsText]
  | cons first others =>
      obtain ⟨item, gap⟩ := first
      obtain ⟨symbol, tail, shape, isOpen⟩ := readsItems.startOpens item
      simp [itemsText, shape, isOpen]

/-- A break before a text of items, if there are any, is one of the gap. -/
theorem ReadsItems.breaks_of_head
    (readsItems : ReadsItems alphabet core itemText reading)
    (atBreak : ∀ symbol ∈ (gap ++ itemsText itemText items).head?,
      alphabet.isBreak symbol = true) :
    items = [] ∨ ∃ symbol ∈ gap, alphabet.isBreak symbol = true := by
  cases gap with
  | cons symbol others =>
      exact Or.inr ⟨symbol, List.mem_cons_self, atBreak symbol rfl⟩
  | nil =>
      cases items with
      | nil => exact Or.inl rfl
      | cons entry others =>
          obtain ⟨symbol, tail, shape, isOpen⟩ :=
            readsItems.startOpens entry.1
          have isBreak : alphabet.isBreak symbol = true := by
            apply atBreak
            simp [itemsText, shape]
          have isGap := alphabet.gapOfBreak symbol isBreak
          rw [alphabet.opensOutsideGap symbol isOpen] at isGap
          cases isGap

/-- Before an item that is not read nothing matches. -/
theorem ReadsItems.passes_gap
    (readsItems : ReadsItems alphabet core itemText reading)
    (gapInside : ∀ symbol ∈ gap, alphabet.isGap symbol = true)
    (unread : reading item = none) :
    (linePattern alphabet core).matchAt
      ⟨behind, gap ++ (itemText item ++ rest)⟩ = none := by
  obtain ⟨symbol, tail, shape, isOpen⟩ := readsItems.startOpens item
  apply matchAt_linePattern_refused readsItems.refusesGap gapInside
  · simp [shape, alphabet.opensOutsideGap symbol isOpen]
  · intro behind
    exact readsItems.refuses item behind rest unread

/-- An item that is not read is passed with the gap before it. -/
theorem ReadsItems.passes_item
    (readsItems : ReadsItems alphabet core itemText reading)
    (gapInside : ∀ symbol ∈ gap, alphabet.isGap symbol = true)
    (unread : reading item = none) :
    (linePattern alphabet core).findIterFrom 0 behind
        (gap ++ (itemText item ++ rest)) =
      (linePattern alphabet core).findIterFrom 0
        (after behind (gap ++ itemText item)) rest := by
  apply findIterFrom_piece (readsItems.unbroken item)
  intro before left shape
  apply readsItems.passes_gap _ unread
  intro symbol member
  apply gapInside
  rw [shape]
  exact List.mem_append_right before member

/-- At a line start, an item that is read is the next match. -/
theorem ReadsItems.finds_item_atStart
    (readsItems : ReadsItems alphabet core itemText reading)
    {groups : List (Name × List Symbol)}
    {behindGap : List Symbol}
    (gapInside : ∀ symbol ∈ gap, alphabet.isGap symbol = true)
    (atStart : behind.all alphabet.isBreak = true)
    (isRead : reading item = some groups)
    (ends : EndsLine alphabet behindGap rest) :
    ∃ found before others last,
      found.groups = groups ∧ behindGap = before ++ others ∧
        (∀ symbol ∈ (others ++ rest).head?,
          alphabet.isBreak symbol = true) ∧
        (linePattern alphabet core).findIterFrom 0 behind
            (gap ++ (itemText item ++ (behindGap ++ rest))) =
          found :: (linePattern alphabet core).findIterFrom 0 last
            (others ++ rest) := by
  obtain ⟨before, others, shape, atBreak, matched⟩ :=
    readsItems.reads item groups behindGap rest isRead ends
      (after behind gap)
  obtain ⟨symbol, tail, itemShape, isOpen⟩ := readsItems.startOpens item
  have gapEnds :
      ∀ symbol ∈ (itemText item ++ (behindGap ++ rest)).head?,
        alphabet.isGap symbol = false := by
    simp [itemShape, alphabet.opensOutsideGap symbol isOpen]
  have found :=
    matchAt_linePattern readsItems.refusesGap gapInside gapEnds atStart
  rw [matched] at found
  refine ⟨⟨gap ++ (itemText item ++ before), groups,
      ⟨after (after behind gap) (itemText item ++ before), others ++ rest⟩⟩,
    before, others, after behind (gap ++ (itemText item ++ before)), rfl,
    shape, atBreak, ?_⟩
  have regrouped :
      gap ++ (itemText item ++ (behindGap ++ rest)) =
        gap ++ (itemText item ++ before) ++ (others ++ rest) := by
    simp [shape]
  rw [regrouped] at found ⊢
  have nonempty : gap ++ (itemText item ++ before) ≠ [] := by
    simp [itemShape]
  exact findIterFrom_hit rfl nonempty found

/-- From the next line start on, an item that is read is the next match. -/
theorem ReadsItems.finds_item
    (readsItems : ReadsItems alphabet core itemText reading)
    {groups : List (Name × List Symbol)}
    {behindGap : List Symbol}
    (gapInside : ∀ symbol ∈ gap, alphabet.isGap symbol = true)
    (reachesStart : behind.all alphabet.isBreak = true ∨
      ∃ symbol ∈ gap, alphabet.isBreak symbol = true)
    (isRead : reading item = some groups)
    (ends : EndsLine alphabet behindGap rest) :
    ∃ found before others last,
      found.groups = groups ∧ behindGap = before ++ others ∧
        (∀ symbol ∈ (others ++ rest).head?,
          alphabet.isBreak symbol = true) ∧
        (linePattern alphabet core).findIterFrom 0 behind
            (gap ++ (itemText item ++ (behindGap ++ rest))) =
          found :: (linePattern alphabet core).findIterFrom 0 last
            (others ++ rest) := by
  obtain ⟨before, left, shape, atStart, passed⟩ :=
    @findIterFrom_lineStart Name Symbol alphabet core behind gap reachesStart
      (itemText item ++ (behindGap ++ rest))
  rw [passed]
  apply readsItems.finds_item_atStart _ atStart isRead ends
  intro symbol member
  apply gapInside
  rw [shape]
  exact List.mem_append_right before member

/-- A line pattern finds every item it reads, once and in order. -/
theorem ReadsItems.findIterFrom_groups
    (readsItems : ReadsItems alphabet core itemText reading)
    (gapInside : ∀ symbol ∈ gap, alphabet.isGap symbol = true)
    (reachesStart : items = [] ∨ behind.all alphabet.isBreak = true ∨
      ∃ symbol ∈ gap, alphabet.isBreak symbol = true)
    (separated : Separated alphabet items) :
    ((linePattern alphabet core).findIterFrom 0 behind
        (gap ++ itemsText itemText items)).map Match.groups =
      items.filterMap fun entry => reading entry.1 := by
  induction items generalizing behind gap with
  | nil =>
      rw [itemsText, List.append_nil,
        findIterFrom_lastGap readsItems.refusesGap readsItems.refusesEnd
          gapInside]
      rfl
  | cons entry items inductionHypothesis =>
      obtain ⟨item, behindGap⟩ := entry
      obtain ⟨behindInside, breaks, others⟩ := separated
      rw [itemsText, List.filterMap_cons]
      cases isRead : reading item with
      | none =>
          rw [readsItems.passes_item gapInside isRead]
          exact inductionHypothesis behindInside
            (breaks.imp_right Or.inr) others
      | some groups =>
          have atStart :
              behind.all alphabet.isBreak = true ∨
                ∃ symbol ∈ gap, alphabet.isBreak symbol = true :=
            reachesStart.resolve_left (List.cons_ne_nil _ _)
          have breaksText :
              itemsText itemText items = [] ∨
                ∃ symbol ∈ behindGap, alphabet.isBreak symbol = true := by
            refine breaks.imp_left fun noItems => ?_
            rw [noItems]
            rfl
          obtain ⟨found, before, left, last, captures, shape, atBreak,
            scanned⟩ :=
            readsItems.finds_item gapInside atStart isRead
              ⟨behindInside, readsItems.itemsText_opens, breaksText⟩
          have leftInside :
              ∀ symbol ∈ left, alphabet.isGap symbol = true := by
            intro symbol member
            apply behindInside
            rw [shape]
            exact List.mem_append_right _ member
          have leftBreaks :
              items = [] ∨ last.all alphabet.isBreak = true ∨
                ∃ symbol ∈ left, alphabet.isBreak symbol = true := by
            refine Or.imp_right Or.inr ?_
            exact readsItems.breaks_of_head atBreak
          rw [scanned, List.map_cons, captures]
          exact congrArg (groups :: ·)
            (inductionHypothesis leftInside leftBreaks others)

end Items

end Pattern

end BacktrackingRegex
