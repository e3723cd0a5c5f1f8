import Mathlib.Data.List.Basic

/-!
# Backtracking regular expressions

Patterns with line anchors, ordered alternation, greedy repetition of one
symbol, greedy optional parts and named groups.  `run` lists all matches at a
cursor in the order in which a backtracking matcher tries them, so its head is
the match such a matcher reports.  `search` and `findIter` scan a text for the
first match and for all matches that do not overlap.

Symbols and group names are arbitrary; the line break is a parameter of the
anchors.
-/

namespace BacktrackingRegex

/-- A position in a text: the symbol before it and the symbols after it. -/
structure Cursor (Symbol : Type) where
  behind : Option Symbol
  ahead : List Symbol

/-- A pattern over symbols, with named groups. -/
inductive Pattern (Name Symbol : Type) where
  | one (accepts : Symbol → Bool)
  | many (accepts : Symbol → Bool)
  | anchor (holdsAt : Cursor Symbol → Bool)
  | seq (first second : Pattern Name Symbol)
  | alt (first second : Pattern Name Symbol)
  | opt (inner : Pattern Name Symbol)
  | group (name : Name) (inner : Pattern Name Symbol)

/-- A match: the text it consumed, its groups and where it stopped. -/
structure Match (Name Symbol : Type) where
  text : List Symbol
  groups : List (Name × List Symbol)
  stop : Cursor Symbol

namespace Match

variable {Name Symbol : Type}

/-- The text a named group captured. -/
def group [DecidableEq Name]
    (found : Match Name Symbol)
    (name : Name) : Option (List Symbol) :=
  (found.groups.find? fun captured => captured.1 = name).map Prod.snd

/-- A match that consumes nothing. -/
def still (cursor : Cursor Symbol) : Match Name Symbol :=
  ⟨[], [], cursor⟩

/-- One match followed by another. -/
def andThen (first second : Match Name Symbol) : Match Name Symbol :=
  ⟨first.text ++ second.text, first.groups ++ second.groups, second.stop⟩

@[simp] theorem still_text (cursor : Cursor Symbol) :
    (still cursor : Match Name Symbol).text = [] :=
  rfl

@[simp] theorem still_groups (cursor : Cursor Symbol) :
    (still cursor : Match Name Symbol).groups = [] :=
  rfl

/-- A match that consumed one more symbol before it started. -/
def prepend (symbol : Symbol) (rest : Match Name Symbol) :
    Match Name Symbol :=
  { rest with text := symbol :: rest.text }

/-- A match captured by a group. -/
def captured (name : Name) (inner : Match Name Symbol) :
    Match Name Symbol :=
  { inner with groups := (name, inner.text) :: inner.groups }

/-- What a group captured is one of the captures of the match. -/
theorem mem_groups_of_group [DecidableEq Name]
    {found : Match Name Symbol}
    {name : Name}
    {text : List Symbol}
    (captures : found.group name = some text) :
    (name, text) ∈ found.groups := by
  obtain ⟨⟨other, captured⟩, located, rfl⟩ :=
    Option.map_eq_some_iff.mp captures
  have sameName : other = name := by
    simpa using List.find?_some located
  rw [← sameName]
  exact List.mem_of_find?_eq_some located

end Match

namespace Pattern

variable {Name Symbol : Type}

/-- Greedy repetition of one symbol: the longest match first. -/
def runMany (accepts : Symbol → Bool) :
    Option Symbol → List Symbol → List (Match Name Symbol)
  | behind, [] => [.still ⟨behind, []⟩]
  | behind, symbol :: rest =>
      if accepts symbol then
        (runMany accepts (some symbol) rest).map (Match.prepend symbol) ++
          [.still ⟨behind, symbol :: rest⟩]
      else
        [.still ⟨behind, symbol :: rest⟩]

/-- All matches at a cursor, in the order of backtracking. -/
def run : Pattern Name Symbol → Cursor Symbol → List (Match Name Symbol)
  | .one accepts, cursor =>
      match cursor.ahead with
      | [] => []
      | symbol :: rest =>
          if accepts symbol then
            [⟨[symbol], [], ⟨some symbol, rest⟩⟩]
          else
            []
  | .many accepts, cursor => runMany accepts cursor.behind cursor.ahead
  | .anchor holdsAt, cursor => if holdsAt cursor then [.still cursor] else []
  | .seq first second, cursor =>
      (run first cursor).flatMap fun leading =>
        (run second leading.stop).map leading.andThen
  | .alt first second, cursor => run first cursor ++ run second cursor
  | .opt inner, cursor => run inner cursor ++ [.still cursor]
  | .group name inner, cursor => (run inner cursor).map (Match.captured name)

/-- The match a backtracking matcher reports at a cursor. -/
def matchAt
    (pattern : Pattern Name Symbol)
    (cursor : Cursor Symbol) : Option (Match Name Symbol) :=
  (pattern.run cursor).head?

/-- The first match at or after a position. -/
def searchFrom (pattern : Pattern Name Symbol) :
    Option Symbol → List Symbol → Option (Match Name Symbol)
  | behind, [] => pattern.matchAt ⟨behind, []⟩
  | behind, symbol :: rest =>
      match pattern.matchAt ⟨behind, symbol :: rest⟩ with
      | some found => some found
      | none => searchFrom pattern (some symbol) rest

/-- The first match in a text. -/
def search
    (pattern : Pattern Name Symbol)
    (text : List Symbol) : Option (Match Name Symbol) :=
  pattern.searchFrom none text

/--
All matches from a position on, where the next `skip` symbols belong to the
last match.  Meant for patterns without empty matches.
-/
def findIterFrom (pattern : Pattern Name Symbol) :
    Nat → Option Symbol → List Symbol → List (Match Name Symbol)
  | skip, behind, [] =>
      if skip = 0 then (pattern.matchAt ⟨behind, []⟩).toList else []
  | skip + 1, _, symbol :: rest =>
      findIterFrom pattern skip (some symbol) rest
  | 0, behind, symbol :: rest =>
      match pattern.matchAt ⟨behind, symbol :: rest⟩ with
      | some found =>
          found :: findIterFrom pattern (found.text.length - 1)
            (some symbol) rest
      | none => findIterFrom pattern 0 (some symbol) rest

/-- All matches in a text that do not overlap, from left to right. -/
def findIter
    (pattern : Pattern Name Symbol)
    (text : List Symbol) : List (Match Name Symbol) :=
  pattern.findIterFrom 0 none text

/-- The empty pattern. -/
def empty : Pattern Name Symbol :=
  .anchor fun _ => true

/-- The start of a line, after the given breaks. -/
def lineStart (breaks : Symbol → Bool) : Pattern Name Symbol :=
  .anchor fun cursor => cursor.behind.all breaks

/-- The end of a line, before the given breaks. -/
def lineEnd (breaks : Symbol → Bool) : Pattern Name Symbol :=
  .anchor fun cursor => cursor.ahead.head?.all breaks

/-- Patterns one after the other. -/
def sequence : List (Pattern Name Symbol) → Pattern Name Symbol
  | [] => empty
  | first :: rest => .seq first (sequence rest)

/-- One or more symbols, greedily. -/
def oneOrMore (accepts : Symbol → Bool) : Pattern Name Symbol :=
  .seq (.one accepts) (.many accepts)

section Scanning

variable {pattern : Pattern Name Symbol}
variable {found : Match Name Symbol}

/-- A reported match is one of the matches at some cursor. -/
theorem mem_run_of_searchFrom
    {behind : Option Symbol}
    {text : List Symbol}
    (reported : pattern.searchFrom behind text = some found) :
    ∃ cursor, found ∈ pattern.run cursor := by
  induction text generalizing behind with
  | nil =>
      exact ⟨_, List.mem_of_head? reported⟩
  | cons symbol rest inductionHypothesis =>
      rw [searchFrom] at reported
      split at reported
      · next here matched =>
          rw [Option.some.injEq] at reported
          subst reported
          exact ⟨_, List.mem_of_head? matched⟩
      · exact inductionHypothesis reported

/-- A match reported by `search` is one of the matches at some cursor. -/
theorem mem_run_of_search
    {text : List Symbol}
    (reported : pattern.search text = some found) :
    ∃ cursor, found ∈ pattern.run cursor :=
  mem_run_of_searchFrom reported

/-- Every listed match is one of the matches at some cursor. -/
theorem mem_run_of_findIterFrom
    {skip : Nat}
    {behind : Option Symbol}
    {text : List Symbol}
    (listed : found ∈ pattern.findIterFrom skip behind text) :
    ∃ cursor, found ∈ pattern.run cursor := by
  induction text generalizing skip behind with
  | nil =>
      rw [findIterFrom] at listed
      split at listed
      · rw [Option.mem_toList] at listed
        exact ⟨_, List.mem_of_head? listed⟩
      · cases listed
  | cons symbol rest inductionHypothesis =>
      cases skip with
      | succ skip =>
          exact inductionHypothesis listed
      | zero =>
          rw [findIterFrom] at listed
          split at listed
          · next here matched =>
              rcases List.mem_cons.mp listed with isHere | later
              · subst isHere
                exact ⟨_, List.mem_of_head? matched⟩
              · exact inductionHypothesis later
          · exact inductionHypothesis listed

/-- A match listed by `findIter` is one of the matches at some cursor. -/
theorem mem_run_of_findIter
    {text : List Symbol}
    (listed : found ∈ pattern.findIter text) :
    ∃ cursor, found ∈ pattern.run cursor :=
  mem_run_of_findIterFrom listed

end Scanning

section Captures

variable (name : Name) (allowed : Symbol → Prop)

/-- Every symbol the pattern consumes is of an allowed kind. -/
def Consumes : Pattern Name Symbol → Prop
  | .one accepts => ∀ symbol, accepts symbol = true → allowed symbol
  | .many accepts => ∀ symbol, accepts symbol = true → allowed symbol
  | .anchor _ => True
  | .seq first second => Consumes first ∧ Consumes second
  | .alt first second => Consumes first ∧ Consumes second
  | .opt inner => Consumes inner
  | .group _ inner => Consumes inner

/-- Every symbol a group of this name captures is of an allowed kind. -/
def Captures : Pattern Name Symbol → Prop
  | .seq first second => Captures first ∧ Captures second
  | .alt first second => Captures first ∧ Captures second
  | .opt inner => Captures inner
  | .group other inner =>
      (other = name → Consumes allowed inner) ∧ Captures inner
  | _ => True

variable {name allowed}

theorem runMany_consumes
    {accepts : Symbol → Bool}
    (kind : ∀ symbol, accepts symbol = true → allowed symbol)
    {behind : Option Symbol}
    {ahead : List Symbol}
    {found : Match Name Symbol}
    (member : found ∈ runMany accepts behind ahead) :
    found.groups = [] ∧ ∀ symbol ∈ found.text, allowed symbol := by
  induction ahead generalizing behind found with
  | nil =>
      rw [runMany, List.mem_singleton] at member
      subst member
      exact ⟨rfl, by simp⟩
  | cons first rest inductionHypothesis =>
      rw [runMany] at member
      split at member
      · next accepted =>
          rcases List.mem_append.mp member with longer | stopped
          · obtain ⟨inner, innerMember, rfl⟩ := List.mem_map.mp longer
            obtain ⟨noGroups, ofKind⟩ := inductionHypothesis innerMember
            refine ⟨noGroups, ?_⟩
            intro symbol present
            rcases List.mem_cons.mp present with isFirst | inRest
            · rw [isFirst]
              exact kind first accepted
            · exact ofKind symbol inRest
          · rw [List.mem_singleton] at stopped
            subst stopped
            exact ⟨rfl, by simp⟩
      · rw [List.mem_singleton] at member
        subst member
        exact ⟨rfl, by simp⟩

/-- A match consumes symbols of the kind its pattern allows. -/
theorem run_consumes
    {pattern : Pattern Name Symbol}
    (kind : Consumes allowed pattern)
    {cursor : Cursor Symbol}
    {found : Match Name Symbol}
    (member : found ∈ pattern.run cursor) :
    ∀ symbol ∈ found.text, allowed symbol := by
  induction pattern generalizing cursor found with
  | one accepts =>
      rw [run] at member
      split at member
      · cases member
      · split at member
        · next accepted =>
            rw [List.mem_singleton] at member
            subst member
            intro symbol present
            rw [List.mem_singleton.mp present]
            exact kind _ accepted
        · cases member
  | many accepts =>
      exact (runMany_consumes kind member).2
  | anchor holdsAt =>
      rw [run] at member
      split at member
      · rw [List.mem_singleton] at member
        subst member
        simp
      · cases member
  | seq first second firstHypothesis secondHypothesis =>
      obtain ⟨leading, leadingMember, trailingMember⟩ :=
        List.mem_flatMap.mp member
      obtain ⟨trailing, trailingRun, rfl⟩ := List.mem_map.mp trailingMember
      intro symbol present
      rcases List.mem_append.mp present with inLeading | inTrailing
      · exact firstHypothesis kind.1 leadingMember symbol inLeading
      · exact secondHypothesis kind.2 trailingRun symbol inTrailing
  | alt first second firstHypothesis secondHypothesis =>
      rcases List.mem_append.mp member with inFirst | inSecond
      · exact firstHypothesis kind.1 inFirst
      · exact secondHypothesis kind.2 inSecond
  | opt inner innerHypothesis =>
      rcases List.mem_append.mp member with taken | skipped
      · exact innerHypothesis kind taken
      · rw [List.mem_singleton] at skipped
        subst skipped
        simp
  | group other inner innerHypothesis =>
      obtain ⟨innerMatch, innerMember, rfl⟩ := List.mem_map.mp member
      intro symbol present
      exact innerHypothesis kind innerMember symbol present

/-- A group captures symbols of the kind its pattern allows. -/
theorem run_captures
    {pattern : Pattern Name Symbol}
    (kind : Captures name allowed pattern)
    {cursor : Cursor Symbol}
    {found : Match Name Symbol}
    (member : found ∈ pattern.run cursor)
    {text : List Symbol}
    (captured : (name, text) ∈ found.groups) :
    ∀ symbol ∈ text, allowed symbol := by
  induction pattern generalizing cursor found with
  | one accepts =>
      rw [run] at member
      split at member
      · cases member
      · split at member
        · rw [List.mem_singleton] at member
          subst member
          cases captured
        · cases member
  | many accepts =>
      have bare : found.groups = [] ∧ ∀ symbol ∈ found.text, True :=
        runMany_consumes (fun _ _ => trivial) member
      rw [bare.1] at captured
      cases captured
  | anchor holdsAt =>
      rw [run] at member
      split at member
      · rw [List.mem_singleton] at member
        subst member
        cases captured
      · cases member
  | seq first second firstHypothesis secondHypothesis =>
      obtain ⟨leading, leadingMember, trailingMember⟩ :=
        List.mem_flatMap.mp member
      obtain ⟨trailing, trailingRun, rfl⟩ := List.mem_map.mp trailingMember
      rcases List.mem_append.mp captured with inLeading | inTrailing
      · exact firstHypothesis kind.1 leadingMember inLeading
      · exact secondHypothesis kind.2 trailingRun inTrailing
  | alt first second firstHypothesis secondHypothesis =>
      rcases List.mem_append.mp member with inFirst | inSecond
      · exact firstHypothesis kind.1 inFirst captured
      · exact secondHypothesis kind.2 inSecond captured
  | opt inner innerHypothesis =>
      rcases List.mem_append.mp member with taken | skipped
      · exact innerHypothesis kind taken captured
      · rw [List.mem_singleton] at skipped
        subst skipped
        cases captured
  | group other inner innerHypothesis =>
      obtain ⟨innerMatch, innerMember, rfl⟩ := List.mem_map.mp member
      rcases List.mem_cons.mp captured with isThis | inInner
      · obtain ⟨sameName, sameText⟩ := Prod.mk.inj isThis
        rw [sameText]
        exact run_consumes (kind.1 sameName.symm) innerMember
      · exact innerHypothesis kind.2 innerMember inInner

/-- A sequence captures what its parts capture. -/
theorem captures_sequence
    {patterns : List (Pattern Name Symbol)}
    (kind : ∀ pattern ∈ patterns, Captures name allowed pattern) :
    Captures name allowed (sequence patterns) := by
  induction patterns with
  | nil =>
      trivial
  | cons first rest inductionHypothesis =>
      exact ⟨kind first List.mem_cons_self,
        inductionHypothesis fun pattern member =>
          kind pattern (List.mem_cons_of_mem first member)⟩

end Captures

end Pattern

end BacktrackingRegex
