import SafeSignalTrader.BacktrackingRegex

/-!
# The first match a continuation accepts

A backtracking matcher tries the matches of a pattern in order until the rest
of the pattern succeeds.  `firstThat` takes the rest as a continuation; its
rules, one for each construct, run a pattern on a text symbolically.
-/

namespace BacktrackingRegex

variable {Name Symbol Result : Type}

/-- The symbol before a position, after a text has been passed. -/
def after : Option Symbol → List Symbol → Option Symbol
  | behind, [] => behind
  | _, symbol :: rest => after (some symbol) rest

@[simp] theorem after_nil (behind : Option Symbol) :
    after behind [] = behind :=
  rfl

@[simp] theorem after_cons
    (behind : Option Symbol)
    (symbol : Symbol)
    (rest : List Symbol) :
    after behind (symbol :: rest) = after (some symbol) rest :=
  rfl

theorem after_append
    (behind : Option Symbol)
    (first second : List Symbol) :
    after behind (first ++ second) = after (after behind first) second := by
  induction first generalizing behind with
  | nil => rfl
  | cons symbol rest inductionHypothesis =>
      exact inductionHypothesis (some symbol)

/-- After a text that is not empty comes its last symbol. -/
theorem after_mem
    {behind : Option Symbol}
    {text : List Symbol}
    (nonempty : text ≠ []) :
    ∃ symbol ∈ text, after behind text = some symbol := by
  induction text generalizing behind with
  | nil => exact absurd rfl nonempty
  | cons symbol rest inductionHypothesis =>
      by_cases last : rest = []
      · subst last
        exact ⟨symbol, List.mem_cons_self, rfl⟩
      · obtain ⟨found, member, isLast⟩ :=
          @inductionHypothesis (some symbol) last
        exact ⟨found, List.mem_cons_of_mem symbol member, isLast⟩

namespace Match

/-- The match that passes a text and captures nothing. -/
def stretch
    (behind : Option Symbol)
    (text rest : List Symbol) : Match Name Symbol :=
  ⟨text, [], ⟨after behind text, rest⟩⟩

@[simp] theorem stretch_stop
    (behind : Option Symbol)
    (text rest : List Symbol) :
    (stretch behind text rest : Match Name Symbol).stop =
      ⟨after behind text, rest⟩ :=
  rfl

end Match

namespace Pattern

open Match

/-- The first match that a continuation accepts, as the continuation sees it. -/
def firstThat
    (pattern : Pattern Name Symbol)
    (cursor : Cursor Symbol)
    (accept : Match Name Symbol → Option Result) : Option Result :=
  (pattern.run cursor).findSome? accept

/-- The match a backtracking matcher reports is the first of all. -/
theorem matchAt_eq_firstThat
    (pattern : Pattern Name Symbol)
    (cursor : Cursor Symbol) :
    pattern.matchAt cursor = pattern.firstThat cursor some := by
  rw [matchAt, firstThat]
  cases pattern.run cursor with
  | nil => rfl
  | cons found others => rfl

section Constructs

variable {first second inner : Pattern Name Symbol}
variable {cursor : Cursor Symbol}
variable {accept : Match Name Symbol → Option Result}

theorem firstThat_seq :
    (seq first second).firstThat cursor accept =
      first.firstThat cursor fun leading =>
        second.firstThat leading.stop fun trailing =>
          accept (leading.andThen trailing) := by
  simp only [firstThat, run]
  induction first.run cursor with
  | nil => rfl
  | cons leading others inductionHypothesis =>
      rw [List.flatMap_cons, List.findSome?_append, List.findSome?_map,
        inductionHypothesis, List.findSome?_cons]
      simp only [Function.comp_def]
      split
      · next result found => rw [found, Option.some_or]
      · next found => rw [found, Option.none_or]

theorem firstThat_alt :
    (alt first second).firstThat cursor accept =
      (first.firstThat cursor accept).or (second.firstThat cursor accept) := by
  simp only [firstThat, run, List.findSome?_append]

theorem firstThat_opt :
    (opt inner).firstThat cursor accept =
      (inner.firstThat cursor accept).or (accept (still cursor)) := by
  simp only [firstThat, run, List.findSome?_append, List.findSome?_singleton]

theorem firstThat_group {name : Name} :
    (group name inner).firstThat cursor accept =
      inner.firstThat cursor fun found => accept (found.captured name) := by
  simp only [firstThat, run, List.findSome?_map, Function.comp_def]

theorem firstThat_anchor {holdsAt : Cursor Symbol → Bool} :
    (anchor holdsAt).firstThat cursor accept =
      if holdsAt cursor then accept (still cursor) else none := by
  simp only [firstThat, run]
  split
  · exact List.findSome?_singleton
  · rfl

/-- A pattern that ends a sequence. -/
theorem firstThat_sequence_singleton :
    (sequence [inner]).firstThat cursor accept =
      inner.firstThat cursor accept := by
  have unchanged :
      ∀ leading : Match Name Symbol,
        leading.andThen (still leading.stop) = leading := by
    intro leading
    simp [Match.andThen, still]
  simp only [sequence, empty, firstThat_seq, firstThat_anchor, if_true,
    unchanged]

theorem firstThat_sequence_cons {others : List (Pattern Name Symbol)} :
    (sequence (first :: others)).firstThat cursor accept =
      first.firstThat cursor fun leading =>
        (sequence others).firstThat leading.stop fun trailing =>
          accept (leading.andThen trailing) :=
  firstThat_seq

/-- A continuation that always accepts sees the first match. -/
theorem firstThat_some
    (pattern : Pattern Name Symbol)
    (cursor : Cursor Symbol)
    (result : Match Name Symbol → Result) :
    (pattern.firstThat cursor fun found => some (result found)) =
      (pattern.matchAt cursor).map result := by
  rw [matchAt, firstThat]
  cases pattern.run cursor with
  | nil => rfl
  | cons found others => rfl

end Constructs

section Symbols

variable {accepts : Symbol → Bool}
variable {behind : Option Symbol}
variable {symbol : Symbol}
variable {rest : List Symbol}
variable {accept : Match Name Symbol → Option Result}

theorem firstThat_one_cons :
    (one accepts).firstThat ⟨behind, symbol :: rest⟩ accept =
      if accepts symbol then accept (stretch behind [symbol] rest)
      else none := by
  simp only [firstThat, run]
  split
  · exact List.findSome?_singleton
  · rfl

theorem firstThat_one_nil :
    (one accepts).firstThat ⟨behind, []⟩ accept = none :=
  rfl

theorem firstThat_many_nil :
    (many accepts).firstThat ⟨behind, []⟩ accept =
      accept (still ⟨behind, []⟩) :=
  List.findSome?_singleton

theorem firstThat_many_cons :
    (many accepts).firstThat ⟨behind, symbol :: rest⟩ accept =
      if accepts symbol then
        ((many accepts).firstThat ⟨some symbol, rest⟩ fun found =>
          accept (found.prepend symbol)).or
            (accept (still ⟨behind, symbol :: rest⟩))
      else
        accept (still ⟨behind, symbol :: rest⟩) := by
  simp only [firstThat, run]
  rw [runMany]
  split
  · rw [List.findSome?_append, List.findSome?_map, List.findSome?_singleton]
    rfl
  · exact List.findSome?_singleton

end Symbols

section Runs

variable {accepts : Symbol → Bool}
variable {behind : Option Symbol}
variable {stretched rest : List Symbol}
variable {accept : Match Name Symbol → Option Result}

/-- A repetition that cannot start passes nothing. -/
theorem firstThat_many_stop
    (stops : ∀ symbol ∈ rest.head?, accepts symbol = false) :
    (many accepts).firstThat ⟨behind, rest⟩ accept =
      accept (stretch behind [] rest) := by
  cases rest with
  | nil => exact firstThat_many_nil
  | cons symbol others =>
      have refused : accepts symbol = false := stops symbol rfl
      rw [firstThat_many_cons, refused]
      rfl

/-- The longest repetition is taken if it can go on. -/
theorem firstThat_many_whole
    (inside : ∀ symbol ∈ stretched, accepts symbol = true)
    (stops : ∀ symbol ∈ rest.head?, accepts symbol = false)
    {result : Result}
    (goesOn : accept (stretch behind stretched rest) = some result) :
    (many accepts).firstThat ⟨behind, stretched ++ rest⟩ accept =
      some result := by
  induction stretched generalizing behind accept with
  | nil =>
      rw [List.nil_append, firstThat_many_stop stops]
      exact goesOn
  | cons symbol others inductionHypothesis =>
      obtain ⟨accepted, othersInside⟩ := List.forall_mem_cons.mp inside
      rw [List.cons_append, firstThat_many_cons, if_pos accepted,
        inductionHypothesis othersInside goesOn, Option.some_or]

/-- The longest repetition is taken if no shorter one can go on. -/
theorem firstThat_many_greedy
    (inside : ∀ symbol ∈ stretched, accepts symbol = true)
    (stops : ∀ symbol ∈ rest.head?, accepts symbol = false)
    (shorter : ∀ before symbol others,
      stretched = before ++ symbol :: others →
        accept (stretch behind before (symbol :: others ++ rest)) = none) :
    (many accepts).firstThat ⟨behind, stretched ++ rest⟩ accept =
      accept (stretch behind stretched rest) := by
  induction stretched generalizing behind accept with
  | nil =>
      exact firstThat_many_stop stops
  | cons symbol others inductionHypothesis =>
      obtain ⟨accepted, othersInside⟩ := List.forall_mem_cons.mp inside
      have longer :=
        @inductionHypothesis (some symbol)
          (fun found => accept (found.prepend symbol)) othersInside
          (fun before next remaining shape =>
            shorter (symbol :: before) next remaining (by rw [shape]; rfl))
      have atOnce : accept (still ⟨behind, symbol :: others ++ rest⟩) = none :=
        shorter [] symbol others rfl
      rw [List.cons_append, firstThat_many_cons, if_pos accepted, longer]
      rw [List.cons_append] at atOnce
      rw [atOnce, Option.or_none]
      rfl

/-- If some repetition can go on, one is taken. -/
theorem firstThat_many_isSome
    (inside : ∀ symbol ∈ stretched, accepts symbol = true)
    (stops : ∀ symbol ∈ rest.head?, accepts symbol = false)
    {before others : List Symbol}
    (shape : stretched = before ++ others)
    (goesOn :
      (accept (stretch behind before (others ++ rest))).isSome = true) :
    ((many accepts).firstThat ⟨behind, stretched ++ rest⟩ accept).isSome =
      true := by
  induction stretched generalizing behind before accept with
  | nil =>
      obtain ⟨rfl, rfl⟩ := List.append_eq_nil_iff.mp shape.symm
      rw [List.nil_append, firstThat_many_stop stops]
      exact goesOn
  | cons symbol remaining inductionHypothesis =>
      obtain ⟨accepted, remainingInside⟩ := List.forall_mem_cons.mp inside
      rw [List.cons_append, firstThat_many_cons, if_pos accepted,
        Option.isSome_or, Bool.or_eq_true]
      cases before with
      | nil =>
          rw [List.nil_append] at shape
          subst shape
          exact Or.inr goesOn
      | cons first others =>
          obtain ⟨rfl, sameRest⟩ := List.cons.inj shape
          exact Or.inl (inductionHypothesis remainingInside sameRest goesOn)

/-- What is taken is a repetition that can go on. -/
theorem exists_of_firstThat_many
    (inside : ∀ symbol ∈ stretched, accepts symbol = true)
    (stops : ∀ symbol ∈ rest.head?, accepts symbol = false)
    {result : Result}
    (taken : (many accepts).firstThat ⟨behind, stretched ++ rest⟩ accept =
      some result) :
    ∃ before others, stretched = before ++ others ∧
      accept (stretch behind before (others ++ rest)) = some result := by
  induction stretched generalizing behind accept with
  | nil =>
      rw [List.nil_append, firstThat_many_stop stops] at taken
      exact ⟨[], [], rfl, taken⟩
  | cons symbol remaining inductionHypothesis =>
      obtain ⟨accepted, remainingInside⟩ := List.forall_mem_cons.mp inside
      rw [List.cons_append, firstThat_many_cons, if_pos accepted,
        Option.or_eq_some_iff] at taken
      rcases taken with longer | ⟨_, atOnce⟩
      · obtain ⟨before, others, shape, goesOn⟩ :=
          inductionHypothesis remainingInside longer
        exact ⟨symbol :: before, others, by rw [shape]; rfl, goesOn⟩
      · exact ⟨[], symbol :: remaining, rfl, atOnce⟩

/-- One symbol and more: the longest is taken if it can go on. -/
theorem firstThat_oneOrMore_whole
    (nonempty : stretched ≠ [])
    (inside : ∀ symbol ∈ stretched, accepts symbol = true)
    (stops : ∀ symbol ∈ rest.head?, accepts symbol = false)
    {result : Result}
    (goesOn : accept (stretch behind stretched rest) = some result) :
    (oneOrMore accepts).firstThat ⟨behind, stretched ++ rest⟩ accept =
      some result := by
  cases stretched with
  | nil => exact absurd rfl nonempty
  | cons symbol others =>
      obtain ⟨accepted, othersInside⟩ := List.forall_mem_cons.mp inside
      rw [oneOrMore, firstThat_seq, List.cons_append, firstThat_one_cons,
        if_pos accepted]
      exact firstThat_many_whole othersInside stops goesOn

/-- One symbol and more: the longest is taken if no shorter one can go on. -/
theorem firstThat_oneOrMore_greedy
    (nonempty : stretched ≠ [])
    (inside : ∀ symbol ∈ stretched, accepts symbol = true)
    (stops : ∀ symbol ∈ rest.head?, accepts symbol = false)
    (shorter : ∀ before symbol others,
      stretched = before ++ symbol :: others →
        accept (stretch behind before (symbol :: others ++ rest)) = none) :
    (oneOrMore accepts).firstThat ⟨behind, stretched ++ rest⟩ accept =
      accept (stretch behind stretched rest) := by
  cases stretched with
  | nil => exact absurd rfl nonempty
  | cons symbol others =>
      obtain ⟨accepted, othersInside⟩ := List.forall_mem_cons.mp inside
      rw [oneOrMore, firstThat_seq, List.cons_append, firstThat_one_cons,
        if_pos accepted]
      apply firstThat_many_greedy othersInside stops
      intro before next remaining shape
      exact shorter (symbol :: before) next remaining (by rw [shape]; rfl)

/-- One symbol and more does not start at another symbol. -/
theorem firstThat_oneOrMore_stop
    (stops : ∀ symbol ∈ rest.head?, accepts symbol = false) :
    (oneOrMore accepts).firstThat ⟨behind, rest⟩ accept = none := by
  rw [oneOrMore, firstThat_seq]
  cases rest with
  | nil => exact firstThat_one_nil
  | cons symbol others =>
      have refused : accepts symbol = false := stops symbol rfl
      rw [firstThat_one_cons, refused]
      rfl

end Runs

section Words

/-- Whether a text starts with symbols that pass given tests one by one. -/
def passes : List (Symbol → Bool) → List Symbol → Bool
  | [], _ => true
  | _ :: _, [] => false
  | test :: tests, symbol :: rest => test symbol && passes tests rest

theorem passes_append
    {tests : List (Symbol → Bool)}
    {text : List Symbol}
    (passed : passes tests text = true)
    (rest : List Symbol) :
    passes tests (text ++ rest) = true := by
  induction tests generalizing text with
  | nil => rfl
  | cons test tests inductionHypothesis =>
      cases text with
      | nil => cases passed
      | cons symbol others =>
          simp only [passes, Bool.and_eq_true] at passed
          simp only [List.cons_append, passes, Bool.and_eq_true]
          exact ⟨passed.1, inductionHypothesis passed.2⟩

/-- Tests on a text are tests on its parts. -/
theorem passes_append_eq
    (tests : List (Symbol → Bool))
    (text rest : List Symbol) :
    passes tests (text ++ rest) =
      (passes (tests.take text.length) text &&
        passes (tests.drop text.length) rest) := by
  induction text generalizing tests with
  | nil =>
      cases tests with
      | nil => rfl
      | cons test tests => rfl
  | cons symbol others inductionHypothesis =>
      cases tests with
      | nil => rfl
      | cons test tests =>
          simp only [List.cons_append, passes, inductionHypothesis,
            List.length_cons, List.take_succ_cons, List.drop_succ_cons,
            Bool.and_assoc]

/-- A word is passed exactly if the text starts with it. -/
theorem firstThat_word
    {tests : List (Symbol → Bool)}
    {behind : Option Symbol}
    {text : List Symbol}
    {accept : Match Name Symbol → Option Result} :
    (sequence (tests.map one)).firstThat ⟨behind, text⟩ accept =
      if passes tests text then
        accept (stretch behind (text.take tests.length)
          (text.drop tests.length))
      else
        none := by
  induction tests generalizing behind text accept with
  | nil =>
      exact firstThat_anchor
  | cons test tests inductionHypothesis =>
      rw [List.map_cons, sequence, firstThat_seq]
      cases text with
      | nil =>
          rw [firstThat_one_nil]
          rfl
      | cons symbol rest =>
          rw [firstThat_one_cons]
          by_cases passed : test symbol = true
          · rw [if_pos passed, inductionHypothesis, passes, passed,
              Bool.true_and]
            rfl
          · rw [if_neg passed, passes, Bool.eq_false_iff.mpr passed,
              Bool.false_and]
            rfl

end Words

section Taking

/-- A pattern takes a text, once the rest of the pattern goes on behind it. -/
def Takes
    (pattern : Pattern Name Symbol)
    (text : List Symbol)
    (groups : List (Name × List Symbol))
    (tail : List Symbol) : Prop :=
  ∀ behind (accept : Match Name Symbol → Option (Match Name Symbol)) result,
    accept ⟨text, groups, ⟨after behind text, tail⟩⟩ = some result →
      pattern.firstThat ⟨behind, text ++ tail⟩ accept = some result

/-- A pattern fails on a text, however the rest of the pattern goes on. -/
def Fails (pattern : Pattern Name Symbol) (text : List Symbol) : Prop :=
  ∀ behind (accept : Match Name Symbol → Option (Match Name Symbol)),
    pattern.firstThat ⟨behind, text⟩ accept = none

variable {pattern first second inner : Pattern Name Symbol}
variable {accepts : Symbol → Bool}
variable {text more tail : List Symbol}
variable {groups others : List (Name × List Symbol)}
variable {tests : List (Symbol → Bool)}

theorem takes_one
    {symbol : Symbol}
    (accepted : accepts symbol = true) :
    @Takes Name Symbol (one accepts) [symbol] [] tail := by
  intro behind accept result goesOn
  rw [List.singleton_append, firstThat_one_cons, if_pos accepted]
  exact goesOn

theorem takes_oneOrMore
    (nonempty : text ≠ [])
    (inside : ∀ symbol ∈ text, accepts symbol = true)
    (stops : ∀ symbol ∈ tail.head?, accepts symbol = false) :
    @Takes Name Symbol (oneOrMore accepts) text [] tail := by
  intro behind accept result goesOn
  exact firstThat_oneOrMore_whole nonempty inside stops goesOn

theorem takes_word
    (length : tests.length = text.length)
    (passed : passes tests (text ++ tail) = true) :
    @Takes Name Symbol (sequence (tests.map one)) text [] tail := by
  intro behind accept result goesOn
  rw [firstThat_word, if_pos passed, length, List.take_left, List.drop_left]
  exact goesOn

theorem Takes.group
    (taken : Takes inner text groups tail)
    (name : Name) :
    Takes (.group name inner) text ((name, text) :: groups) tail := by
  intro behind accept result goesOn
  rw [firstThat_group]
  exact taken behind _ result goesOn

theorem Takes.alt_left
    (taken : Takes first text groups tail) :
    Takes (.alt first second) text groups tail := by
  intro behind accept result goesOn
  rw [firstThat_alt, taken behind accept result goesOn, Option.some_or]

theorem Takes.alt_right
    (taken : Takes second text groups tail)
    (failed : Fails first (text ++ tail)) :
    Takes (.alt first second) text groups tail := by
  intro behind accept result goesOn
  rw [firstThat_alt, failed behind accept, Option.none_or]
  exact taken behind accept result goesOn

theorem Takes.opt
    (taken : Takes inner text groups tail) :
    Takes (.opt inner) text groups tail := by
  intro behind accept result goesOn
  rw [firstThat_opt, taken behind accept result goesOn, Option.some_or]

theorem Fails.opt
    (failed : Fails inner tail) :
    Takes (.opt inner) [] [] tail := by
  intro behind accept result goesOn
  rw [List.nil_append, firstThat_opt, failed behind accept, Option.none_or]
  exact goesOn

theorem takes_sequence_nil :
    @Takes Name Symbol (sequence []) [] [] tail := by
  intro behind accept result goesOn
  rw [sequence, empty, firstThat_anchor]
  exact goesOn

theorem Takes.sequence
    {patterns : List (Pattern Name Symbol)}
    (taken : Takes first text groups (more ++ tail))
    (onwards : Takes (.sequence patterns) more others tail) :
    Takes (.sequence (first :: patterns)) (text ++ more) (groups ++ others)
      tail := by
  intro behind accept result goesOn
  rw [List.append_assoc, firstThat_sequence_cons]
  apply taken
  apply onwards
  rw [Match.andThen, ← after_append]
  exact goesOn

theorem fails_word
    (missed : passes tests text = false) :
    @Fails Name Symbol (sequence (tests.map one)) text := by
  intro behind accept
  rw [firstThat_word, missed]
  rfl

theorem fails_oneOrMore
    (stops : ∀ symbol ∈ text.head?, accepts symbol = false) :
    @Fails Name Symbol (oneOrMore accepts) text := by
  intro behind accept
  exact firstThat_oneOrMore_stop stops

theorem fails_one
    (stops : ∀ symbol ∈ text.head?, accepts symbol = false) :
    @Fails Name Symbol (one accepts) text := by
  intro behind accept
  cases text with
  | nil => exact firstThat_one_nil
  | cons symbol others =>
      have refused : accepts symbol = false := stops symbol rfl
      rw [firstThat_one_cons, refused]
      rfl

theorem Fails.group
    (failed : Fails inner text)
    (name : Name) :
    Fails (.group name inner) text := by
  intro behind accept
  rw [firstThat_group]
  exact failed behind _

theorem Fails.sequence
    {patterns : List (Pattern Name Symbol)}
    (failed : Fails first text) :
    Fails (.sequence (first :: patterns)) text := by
  intro behind accept
  rw [firstThat_sequence_cons]
  exact failed behind _

/-- A repetition fails with a rest that fails behind each of its lengths. -/
theorem fails_oneOrMore_then
    {patterns : List (Pattern Name Symbol)}
    (inside : ∀ symbol ∈ text, accepts symbol = true)
    (stops : ∀ symbol ∈ tail.head?, accepts symbol = false)
    (failed : ∀ before others, text = before ++ others →
      Fails (.sequence patterns) (others ++ tail)) :
    Fails (.sequence (oneOrMore accepts :: patterns)) (text ++ tail) := by
  intro behind accept
  by_cases empty : text = []
  · subst empty
    exact Fails.sequence (fails_oneOrMore stops) behind accept
  · rw [firstThat_sequence_cons,
      firstThat_oneOrMore_greedy empty inside stops]
    · exact failed text [] (by simp) _ _
    · intro before symbol others shape
      exact failed before (symbol :: others) shape _ _

theorem Fails.matchAt
    (failed : Fails pattern text)
    (behind : Option Symbol) :
    pattern.matchAt ⟨behind, text⟩ = none := by
  rw [matchAt_eq_firstThat]
  exact failed behind some

/-- A sequence matches where its first part takes and the rest matches. -/
theorem Takes.matchAt_sequence
    {patterns : List (Pattern Name Symbol)}
    (taken : Takes first text groups tail)
    {behind : Option Symbol}
    {found : Match Name Symbol}
    (onwards : (Pattern.sequence patterns).matchAt
      ⟨after behind text, tail⟩ = some found) :
    (Pattern.sequence (first :: patterns)).matchAt ⟨behind, text ++ tail⟩ =
      some (Match.andThen ⟨text, groups, ⟨after behind text, tail⟩⟩ found) := by
  rw [matchAt_eq_firstThat, firstThat_sequence_cons]
  apply taken
  rw [firstThat_some, onwards]
  rfl

end Taking

end Pattern

end BacktrackingRegex
