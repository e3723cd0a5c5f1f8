import Mathlib.Data.List.Basic
import Mathlib.Data.List.Find
import Mathlib.Data.List.Nodup
import Mathlib.Data.List.Forall2

/-!
# Insertion-ordered dictionaries

A finite map that also remembers the order in which its keys were first set.
Setting a key that is already present replaces its value in place, so the
iteration order of the other entries never moves.  Stored values may be
mutated one at a time (`modify`) or in one sweep (`mapValues`).

`AList` keeps neither the position of a replaced key nor the insertion order,
which is why the structure is defined here.
-/

/-- A finite map whose entries are listed in insertion order. -/
structure OrderedDict (Key Value : Type) where
  entries : List (Key × Value)
  keysNodup : (entries.map Prod.fst).Nodup

namespace OrderedDict

variable {Key Value : Type}

@[ext] theorem ext
    {first second : OrderedDict Key Value}
    (same : first.entries = second.entries) :
    first = second := by
  cases first
  cases second
  cases same
  rfl

/-- The dictionary without entries. -/
def empty : OrderedDict Key Value :=
  ⟨[], by simp⟩

/-- Keys in insertion order. -/
def keys (dict : OrderedDict Key Value) : List Key :=
  dict.entries.map Prod.fst

/-- Values in the insertion order of their keys. -/
def values (dict : OrderedDict Key Value) : List Value :=
  dict.entries.map Prod.snd

/-- The number of entries. -/
def size (dict : OrderedDict Key Value) : Nat :=
  dict.entries.length

/-- Two entries of one dictionary with equal keys are the same entry. -/
theorem entry_unique
    (dict : OrderedDict Key Value)
    {key : Key}
    {first second : Value}
    (firstMember : (key, first) ∈ dict.entries)
    (secondMember : (key, second) ∈ dict.entries) :
    first = second := by
  have sameEntry : (key, first) = (key, second) :=
    List.inj_on_of_nodup_map dict.keysNodup
      firstMember secondMember rfl
  exact congrArg Prod.snd sameEntry

section Lookup

variable [DecidableEq Key]

/-- The value stored under a key. -/
def get? (dict : OrderedDict Key Value) (key : Key) : Option Value :=
  (dict.entries.find? fun entry => entry.1 = key).map Prod.snd

/-- Lookup finds exactly the stored entries. -/
theorem get?_eq_some_iff
    (dict : OrderedDict Key Value)
    {key : Key}
    {value : Value} :
    dict.get? key = some value ↔ (key, value) ∈ dict.entries := by
  unfold get?
  constructor
  · intro found
    obtain ⟨entry, located, rfl⟩ := Option.map_eq_some_iff.mp found
    have sameKey : entry.1 = key := by
      simpa using List.find?_some located
    subst sameKey
    exact List.mem_of_find?_eq_some located
  · intro member
    cases located :
        dict.entries.find? (fun entry => entry.1 = key) with
    | none =>
        have absent := List.find?_eq_none.mp located _ member
        simp at absent
    | some entry =>
        have sameKey : entry.1 = key := by
          simpa using List.find?_some located
        subst sameKey
        have sameValue : entry.2 = value :=
          dict.entry_unique
            (List.mem_of_find?_eq_some located) member
        simp [sameValue]

/-- Lookup fails exactly on the keys that were never set. -/
theorem get?_eq_none_iff
    (dict : OrderedDict Key Value)
    {key : Key} :
    dict.get? key = none ↔ key ∉ dict.keys := by
  simp only [get?, keys, Option.map_eq_none_iff, List.find?_eq_none,
    List.mem_map, decide_eq_true_eq, not_exists, not_and]

@[simp] theorem get?_empty (key : Key) :
    (empty : OrderedDict Key Value).get? key = none :=
  rfl

/-- Every stored value is found under some key. -/
theorem mem_values_iff
    (dict : OrderedDict Key Value)
    {value : Value} :
    value ∈ dict.values ↔ ∃ key, dict.get? key = some value := by
  simp [values, get?_eq_some_iff]

end Lookup

section Assignment

variable [DecidableEq Key]

/-- Replace the entry of a key in place, or append a new one. -/
def assign (key : Key) (value : Value) :
    List (Key × Value) → List (Key × Value)
  | [] => [(key, value)]
  | entry :: rest =>
      if entry.1 = key then
        (key, value) :: rest
      else
        entry :: assign key value rest

/-- Assigning to a key that is not present appends an entry. -/
theorem assign_of_not_mem
    {key : Key}
    {value : Value}
    {entries : List (Key × Value)}
    (fresh : key ∉ entries.map Prod.fst) :
    assign key value entries = entries ++ [(key, value)] := by
  induction entries with
  | nil =>
      rfl
  | cons entry rest inductionHypothesis =>
      simp only [List.map_cons, List.mem_cons, not_or] at fresh
      simp [assign, Ne.symm fresh.1, inductionHypothesis fresh.2]

/-- Assigning to a key that is present leaves the key list alone. -/
theorem map_fst_assign_of_mem
    {key : Key}
    {value : Value}
    {entries : List (Key × Value)}
    (present : key ∈ entries.map Prod.fst) :
    (assign key value entries).map Prod.fst = entries.map Prod.fst := by
  induction entries with
  | nil =>
      simp at present
  | cons entry rest inductionHypothesis =>
      by_cases sameKey : entry.1 = key
      · simp [assign, sameKey]
      · have inRest : key ∈ rest.map Prod.fst := by
          simpa [Ne.symm sameKey] using present
        simp [assign, sameKey, inductionHypothesis inRest]

private theorem assign_keysNodup
    (key : Key)
    (value : Value)
    {entries : List (Key × Value)}
    (keysNodup : (entries.map Prod.fst).Nodup) :
    ((assign key value entries).map Prod.fst).Nodup := by
  by_cases present : key ∈ entries.map Prod.fst
  · rw [map_fst_assign_of_mem present]
    exact keysNodup
  · rw [assign_of_not_mem present]
    simpa using List.nodup_append.mpr
      ⟨keysNodup, List.nodup_singleton key, by
        intro other member single singleMember same
        rw [List.mem_singleton] at singleMember
        subst singleMember same
        exact present member⟩

/-- `dict[key] = value`. -/
def set
    (dict : OrderedDict Key Value)
    (key : Key)
    (value : Value) : OrderedDict Key Value :=
  ⟨assign key value dict.entries, assign_keysNodup key value dict.keysNodup⟩

theorem find?_assign
    (key query : Key)
    (value : Value)
    (entries : List (Key × Value)) :
    ((assign key value entries).find? fun entry => entry.1 = query).map
        Prod.snd =
      if query = key then
        some value
      else
        (entries.find? fun entry => entry.1 = query).map Prod.snd := by
  induction entries with
  | nil =>
      by_cases sameKey : query = key
      · simp [assign, sameKey]
      · simp [assign, sameKey, Ne.symm sameKey]
  | cons entry rest inductionHypothesis =>
      by_cases replaced : entry.1 = key
      · by_cases sameKey : query = key
        · simp [assign, replaced, sameKey]
        · simp [assign, replaced, sameKey, Ne.symm sameKey]
      · by_cases here : entry.1 = query
        · have different : query ≠ key := by
            rw [← here]
            exact replaced
          simp [assign, here, different]
        · simpa [assign, replaced, here] using inductionHypothesis

/-- A lookup after an assignment sees the new value under that key only. -/
theorem get?_set
    (dict : OrderedDict Key Value)
    (key query : Key)
    (value : Value) :
    (dict.set key value).get? query =
      if query = key then some value else dict.get? query :=
  find?_assign key query value dict.entries

/-- Setting a fresh key appends its entry. -/
theorem entries_set_of_fresh
    (dict : OrderedDict Key Value)
    {key : Key}
    (value : Value)
    (fresh : dict.get? key = none) :
    (dict.set key value).entries = dict.entries ++ [(key, value)] :=
  assign_of_not_mem (dict.get?_eq_none_iff.mp fresh)

/-- Setting a fresh key puts it behind all others. -/
theorem keys_set_of_fresh
    (dict : OrderedDict Key Value)
    {key : Key}
    (value : Value)
    (fresh : dict.get? key = none) :
    (dict.set key value).keys = dict.keys ++ [key] := by
  simp [keys, dict.entries_set_of_fresh value fresh]

end Assignment

section Mutation

/-- Rewrite every stored value. -/
def mapValues
    (dict : OrderedDict Key Value)
    (change : Value → Value) : OrderedDict Key Value :=
  ⟨dict.entries.map fun entry => (entry.1, change entry.2), by
    rw [List.map_map]
    exact dict.keysNodup⟩

@[simp] theorem keys_mapValues
    (dict : OrderedDict Key Value)
    (change : Value → Value) :
    (dict.mapValues change).keys = dict.keys := by
  simp [keys, mapValues, Function.comp_def]

variable [DecidableEq Key]

@[simp] theorem get?_mapValues
    (dict : OrderedDict Key Value)
    (change : Value → Value)
    (key : Key) :
    (dict.mapValues change).get? key = (dict.get? key).map change := by
  simp [get?, mapValues, List.find?_map, Function.comp_def]

/-- Mutate the value stored under one key; without that key, do nothing. -/
def modify
    (dict : OrderedDict Key Value)
    (key : Key)
    (change : Value → Value) : OrderedDict Key Value :=
  ⟨dict.entries.map fun entry =>
      if entry.1 = key then (entry.1, change entry.2) else entry, by
    have sameKeys :
        Prod.fst ∘ (fun entry : Key × Value =>
          if entry.1 = key then (entry.1, change entry.2) else entry) =
            Prod.fst := by
      funext entry
      by_cases sameKey : entry.1 = key <;> simp [sameKey]
    rw [List.map_map, sameKeys]
    exact dict.keysNodup⟩

@[simp] theorem keys_modify
    (dict : OrderedDict Key Value)
    (key : Key)
    (change : Value → Value) :
    (dict.modify key change).keys = dict.keys := by
  have sameKeys :
      Prod.fst ∘ (fun entry : Key × Value =>
        if entry.1 = key then (entry.1, change entry.2) else entry) =
          Prod.fst := by
    funext entry
    by_cases sameKey : entry.1 = key <;> simp [sameKey]
  simp [keys, modify, sameKeys]

/-- A mutation is visible under its own key only. -/
theorem get?_modify
    (dict : OrderedDict Key Value)
    (key query : Key)
    (change : Value → Value) :
    (dict.modify key change).get? query =
      if query = key then
        (dict.get? query).map change
      else
        dict.get? query := by
  have sameTest :
      (fun entry : Key × Value => decide (entry.1 = query)) ∘
          (fun entry => if entry.1 = key then
            (entry.1, change entry.2) else entry) =
        fun entry => decide (entry.1 = query) := by
    funext entry
    by_cases sameKey : entry.1 = key <;> simp [sameKey]
  simp only [get?, modify, List.find?_map, sameTest, Option.map_map]
  cases located :
      dict.entries.find? (fun entry => decide (entry.1 = query)) with
  | none =>
      simp
  | some entry =>
      have sameQuery : entry.1 = query := by
        simpa using List.find?_some located
      by_cases sameKey : query = key <;>
        simp [sameQuery, sameKey]

/-- Two mutations under one key are one. -/
theorem modify_modify
    (dict : OrderedDict Key Value)
    (key : Key)
    (first second : Value → Value) :
    (dict.modify key first).modify key second =
      dict.modify key fun value => second (first value) := by
  apply ext
  simp only [modify, List.map_map, List.map_inj_left, Function.comp_apply]
  intro entry _
  by_cases sameKey : entry.1 = key
  · simp [sameKey]
  · simp [sameKey]

/-- A mutation depends on the stored value alone. -/
theorem modify_congr
    {dict : OrderedDict Key Value}
    {key : Key}
    {first second : Value → Value}
    (alike : ∀ value, dict.get? key = some value →
      first value = second value) :
    dict.modify key first = dict.modify key second := by
  apply ext
  simp only [modify, List.map_inj_left]
  intro entry member
  by_cases sameKey : entry.1 = key
  · have stored : dict.get? key = some entry.2 := by
      rw [get?_eq_some_iff, ← sameKey]
      exact member
    rw [if_pos sameKey, if_pos sameKey, alike entry.2 stored]
  · rw [if_neg sameKey, if_neg sameKey]

/-- A mutation rewrites the entry of its key where it stands. -/
theorem entries_modify
    {dict : OrderedDict Key Value}
    {earlier later : List (Key × Value)}
    {key : Key}
    {value : Value}
    (shape : dict.entries = earlier ++ (key, value) :: later)
    (change : Value → Value) :
    (dict.modify key change).entries =
      earlier ++ (key, change value) :: later := by
  have noDuplicates := dict.keysNodup
  rw [shape, List.map_append, List.map_cons, List.nodup_middle,
    List.nodup_cons, List.mem_append, not_or] at noDuplicates
  obtain ⟨⟨notEarlier, notLater⟩, -⟩ := noDuplicates
  have untouched
      {entries : List (Key × Value)}
      (absent : key ∉ entries.map Prod.fst) :
      (entries.map fun entry =>
        if entry.1 = key then (entry.1, change entry.2) else entry) =
          entries := by
    refine (List.map_congr_left ?_).trans (List.map_id' entries)
    intro entry member
    apply if_neg
    intro sameKey
    exact absent (sameKey ▸ List.mem_map_of_mem member)
  simp only [modify, shape, List.map_append, List.map_cons, ↓reduceIte,
    untouched notEarlier, untouched notLater]

/-- `del dict[key]`; without that key, do nothing. -/
def erase
    (dict : OrderedDict Key Value)
    (key : Key) : OrderedDict Key Value :=
  ⟨dict.entries.filter fun entry => entry.1 ≠ key,
    dict.keysNodup.sublist (List.filter_sublist.map Prod.fst)⟩

theorem keys_erase
    (dict : OrderedDict Key Value)
    (key : Key) :
    (dict.erase key).keys = dict.keys.filter fun other => other ≠ key := by
  simp only [keys, erase, List.filter_map]
  rfl

/-- An erased key is gone, and only that one. -/
theorem get?_erase
    (dict : OrderedDict Key Value)
    (key query : Key) :
    (dict.erase key).get? query =
      if query = key then none else dict.get? query := by
  have sameTest :
      (fun entry : Key × Value =>
          decide (decide (entry.1 ≠ key) = true ∧
            decide (entry.1 = query) = true)) =
        fun entry => decide (query ≠ key ∧ entry.1 = query) := by
    funext entry
    by_cases here : entry.1 = query
    · simp [here]
    · simp [here]
  simp only [get?, erase, List.find?_filter, sameTest]
  split
  · next same =>
      simp [same]
  · next different =>
      simp [different]

/-- Erasing a key that is not present changes nothing. -/
theorem erase_of_absent
    {dict : OrderedDict Key Value}
    {key : Key}
    (absent : dict.get? key = none) :
    dict.erase key = dict := by
  apply ext
  rw [erase, List.filter_eq_self]
  intro entry member
  refine decide_eq_true ?_
  intro same
  have present : key ∈ dict.keys := by
    rw [← same]
    exact List.mem_map_of_mem member
  exact dict.get?_eq_none_iff.mp absent present

end Mutation

section Scan

/-- The first entry, in insertion order, whose value passes a test. -/
def firstWhere?
    (dict : OrderedDict Key Value)
    (test : Value → Bool) : Option (Key × Value) :=
  dict.entries.find? fun entry => test entry.2

variable [DecidableEq Key]

/-- The entry a scan stops at is stored and passes the test. -/
theorem get?_of_firstWhere?
    {dict : OrderedDict Key Value}
    {test : Value → Bool}
    {key : Key}
    {value : Value}
    (found : dict.firstWhere? test = some (key, value)) :
    dict.get? key = some value ∧ test value = true :=
  ⟨dict.get?_eq_some_iff.mpr (List.mem_of_find?_eq_some found),
    by simpa using List.find?_some found⟩

/-- A scan that stops nowhere has refused every stored value. -/
theorem firstWhere?_eq_none_iff
    {dict : OrderedDict Key Value}
    {test : Value → Bool} :
    dict.firstWhere? test = none ↔
      ∀ key value, dict.get? key = some value → test value = false := by
  simp [firstWhere?, List.find?_eq_none, get?_eq_some_iff]

/-- Of two keys in order, a scan that stops at the second refused the first. -/
theorem refused_of_firstWhere?
    {dict : OrderedDict Key Value}
    {test : Value → Bool}
    {first second : Key}
    {value earlierValue : Value}
    (stopped : dict.firstWhere? test = some (second, value))
    (ordered : [first, second].Sublist dict.keys)
    (stored : dict.get? first = some earlierValue) :
    test earlierValue = false := by
  obtain ⟨_, earlier, later, shape, refused⟩ :=
    List.find?_eq_some_iff_append.mp stopped
  have keysShape :
      dict.keys =
        earlier.map Prod.fst ++ second :: later.map Prod.fst := by
    simp [keys, shape]
  have noDuplicates :
      (earlier.map Prod.fst ++ second :: later.map Prod.fst).Nodup := by
    rw [← keysShape]
    exact dict.keysNodup
  obtain ⟨_, behindNodup, apart⟩ := List.nodup_append.mp noDuplicates
  rw [keysShape] at ordered
  -- The pair lies across the split: its second key stands there only once.
  have before : first ∈ earlier.map Prod.fst := by
    obtain ⟨ahead, behind, split, aheadIn, behindIn⟩ :=
      List.sublist_append_iff.mp ordered
    match ahead, split with
    | [], split =>
        subst split
        have secondLater : second ∈ later.map Prod.fst := by
          cases behindIn with
          | cons _ pairIn => exact pairIn.subset (by simp)
          | cons_cons _ singleIn => exact singleIn.subset (by simp)
        exact ((List.nodup_cons.mp behindNodup).1 secondLater).elim
    | [_], split =>
        cases split
        exact aheadIn.subset (by simp)
    | _ :: _ :: _, split =>
        simp only [List.cons_append, List.cons.injEq] at split
        obtain ⟨rfl, rfl, _⟩ := split
        exact aheadIn.subset (by simp)
  obtain ⟨entry, member, rfl⟩ := List.mem_map.mp before
  have sameValue : entry.2 = earlierValue :=
    dict.entry_unique (by rw [shape]; exact List.mem_append_left _ member)
      (dict.get?_eq_some_iff.mp stored)
  rw [← sameValue]
  simpa using refused entry member

end Scan

section Showing

variable {Other : Type}

/-- The dictionary that shows something of every stored value. -/
def mapTo
    (dict : OrderedDict Key Value)
    (shown : Value → Other) : OrderedDict Key Other :=
  ⟨dict.entries.map fun entry => (entry.1, shown entry.2), by
    rw [List.map_map]
    exact dict.keysNodup⟩

/-- A sweep that shows as another one. -/
theorem mapTo_mapValues
    {dict : OrderedDict Key Value}
    {shown : Value → Other}
    {change : Value → Value}
    {seen : Other → Other}
    (shows : ∀ value ∈ dict.values, shown (change value) = seen (shown value)) :
    (dict.mapValues change).mapTo shown =
      (dict.mapTo shown).mapValues seen := by
  apply ext
  simp only [mapTo, mapValues, List.map_map, List.map_inj_left,
    Function.comp_apply]
  intro entry member
  rw [shows entry.2 (List.mem_map_of_mem member)]

/-- Tests that agree on the stored values stop a scan at the same entry. -/
theorem firstWhere?_congr
    {dict : OrderedDict Key Value}
    {first second : Value → Bool}
    (alike : ∀ value ∈ dict.values, first value = second value) :
    dict.firstWhere? first = dict.firstWhere? second := by
  unfold firstWhere?
  apply List.find?_congr
  intro entry member
  exact alike entry.2 (List.mem_map_of_mem member)

/-- A scan of what is shown is a scan of the values. -/
theorem firstWhere?_mapTo
    (dict : OrderedDict Key Value)
    (shown : Value → Other)
    (test : Other → Bool) :
    (dict.mapTo shown).firstWhere? test =
      (dict.firstWhere? fun value => test (shown value)).map
        fun entry => (entry.1, shown entry.2) := by
  simp only [firstWhere?, mapTo, List.find?_map, Function.comp_def]

variable [DecidableEq Key]

@[simp] theorem get?_mapTo
    (dict : OrderedDict Key Value)
    (shown : Value → Other)
    (key : Key) :
    (dict.mapTo shown).get? key = (dict.get? key).map shown := by
  simp [get?, mapTo, List.find?_map, Function.comp_def]

theorem assign_map
    (shown : Value → Other)
    (key : Key)
    (value : Value)
    (entries : List (Key × Value)) :
    (assign key value entries).map (fun entry => (entry.1, shown entry.2)) =
      assign key (shown value)
        (entries.map fun entry => (entry.1, shown entry.2)) := by
  induction entries with
  | nil =>
      rfl
  | cons entry rest inductionHypothesis =>
      by_cases sameKey : entry.1 = key
      · simp [assign, sameKey]
      · simp [assign, sameKey, inductionHypothesis]

theorem mapTo_set
    (dict : OrderedDict Key Value)
    (shown : Value → Other)
    (key : Key)
    (value : Value) :
    (dict.set key value).mapTo shown =
      (dict.mapTo shown).set key (shown value) :=
  ext (assign_map shown key value dict.entries)

/-- A mutation that shows as another one. -/
theorem mapTo_modify
    {dict : OrderedDict Key Value}
    {shown : Value → Other}
    {key : Key}
    {change : Value → Value}
    {seen : Other → Other}
    (shows : ∀ value, dict.get? key = some value →
      shown (change value) = seen (shown value)) :
    (dict.modify key change).mapTo shown =
      (dict.mapTo shown).modify key seen := by
  apply ext
  simp only [mapTo, modify, List.map_map, List.map_inj_left,
    Function.comp_apply]
  intro entry member
  by_cases sameKey : entry.1 = key
  · have stored : dict.get? key = some entry.2 := by
      rw [get?_eq_some_iff, ← sameKey]
      exact member
    rw [if_pos sameKey, if_pos sameKey, shows entry.2 stored]
  · rw [if_neg sameKey, if_neg sameKey]

end Showing

section Pointwise

variable [DecidableEq Key]

/-- Two dictionaries with the same keys in the same order and related values. -/
structure Pointwise
    (related : Value → Value → Prop)
    (first second : OrderedDict Key Value) : Prop where
  sameKeys : first.keys = second.keys
  relatedAt :
    ∀ {key left right},
      first.get? key = some left →
      second.get? key = some right →
      related left right

namespace Pointwise

variable {related : Value → Value → Prop}
variable {first second : OrderedDict Key Value}

/-- Every dictionary is related to itself under a reflexive relation. -/
theorem refl
    (reflexive : ∀ value, related value value)
    (dict : OrderedDict Key Value) :
    Pointwise related dict dict where
  sameKeys := rfl
  relatedAt := by
    intro key left right leftFound rightFound
    rw [leftFound, Option.some.injEq] at rightFound
    subst rightFound
    exact reflexive left

/-- A key of the first dictionary is a key of the second. -/
theorem exists_right
    (pointwise : Pointwise related first second)
    {key : Key}
    {left : Value}
    (found : first.get? key = some left) :
    ∃ right, second.get? key = some right ∧ related left right := by
  cases located : second.get? key with
  | none =>
      have absent := second.get?_eq_none_iff.mp located
      rw [← pointwise.sameKeys, ← first.get?_eq_none_iff, found] at absent
      cases absent
  | some right =>
      exact ⟨right, rfl, pointwise.relatedAt found located⟩

/-- A key missing from the first dictionary is missing from the second. -/
theorem get?_eq_none
    (pointwise : Pointwise related first second)
    {key : Key}
    (absent : first.get? key = none) :
    second.get? key = none := by
  rw [second.get?_eq_none_iff, ← pointwise.sameKeys]
  exact first.get?_eq_none_iff.mp absent

/-- Related values stay related under a weaker relation. -/
theorem mono
    {weaker : Value → Value → Prop}
    (pointwise : Pointwise related first second)
    (weakens : ∀ left right, related left right → weaker left right) :
    Pointwise weaker first second where
  sameKeys := pointwise.sameKeys
  relatedAt := fun leftFound rightFound =>
    weakens _ _ (pointwise.relatedAt leftFound rightFound)

/-- Related values under a fresh key. -/
theorem set_of_fresh
    (pointwise : Pointwise related first second)
    {key : Key}
    {left right : Value}
    (fresh : first.get? key = none)
    (relates : related left right) :
    Pointwise related (first.set key left) (second.set key right) where
  sameKeys := by
    rw [first.keys_set_of_fresh left fresh,
      second.keys_set_of_fresh right (pointwise.get?_eq_none fresh),
      pointwise.sameKeys]
  relatedAt := by
    intro other leftValue rightValue leftFound rightFound
    rw [get?_set] at leftFound rightFound
    by_cases here : other = key
    · rw [if_pos here, Option.some.injEq] at leftFound rightFound
      rw [← leftFound, ← rightFound]
      exact relates
    · rw [if_neg here] at leftFound rightFound
      exact pointwise.relatedAt leftFound rightFound

/-- Related values stay related when one entry is mutated on both sides. -/
theorem modify
    (pointwise : Pointwise related first second)
    {key : Key}
    {leftChange rightChange : Value → Value}
    (relates : ∀ left right,
      first.get? key = some left → second.get? key = some right →
        related (leftChange left) (rightChange right)) :
    Pointwise related (first.modify key leftChange)
      (second.modify key rightChange) where
  sameKeys := by
    rw [keys_modify, keys_modify, pointwise.sameKeys]
  relatedAt := by
    intro other left right leftFound rightFound
    rw [get?_modify] at leftFound rightFound
    by_cases here : other = key
    · rw [if_pos here] at leftFound rightFound
      obtain ⟨leftBefore, leftStored, rfl⟩ :=
        Option.map_eq_some_iff.mp leftFound
      obtain ⟨rightBefore, rightStored, rfl⟩ :=
        Option.map_eq_some_iff.mp rightFound
      exact relates leftBefore rightBefore (here ▸ leftStored)
        (here ▸ rightStored)
    · rw [if_neg here] at leftFound rightFound
      exact pointwise.relatedAt leftFound rightFound

/-- What is left is related when one key is erased on both sides. -/
theorem erase
    (pointwise : Pointwise related first second)
    (key : Key) :
    Pointwise related (first.erase key) (second.erase key) where
  sameKeys := by
    rw [keys_erase, keys_erase, pointwise.sameKeys]
  relatedAt := by
    intro other left right leftFound rightFound
    rw [get?_erase] at leftFound rightFound
    by_cases here : other = key
    · rw [if_pos here] at leftFound
      cases leftFound
    · rw [if_neg here] at leftFound rightFound
      exact pointwise.relatedAt leftFound rightFound

/-- Entry by entry, the keys agree and the values are related. -/
theorem forall₂
    (pointwise : Pointwise related first second) :
    List.Forall₂
      (fun left right => left.1 = right.1 ∧ related left.2 right.2)
      first.entries second.entries := by
  have sameLength : first.entries.length = second.entries.length := by
    simpa [keys] using congrArg List.length pointwise.sameKeys
  rw [List.forall₂_iff_get]
  refine ⟨sameLength, ?_⟩
  intro index leftBound rightBound
  have sameKey :
      (first.entries.get ⟨index, leftBound⟩).1 =
        (second.entries.get ⟨index, rightBound⟩).1 := by
    have atIndex :=
      congrArg (fun names => names[index]?) pointwise.sameKeys
    simpa [keys, leftBound, rightBound] using atIndex
  refine ⟨sameKey, pointwise.relatedAt
    (first.get?_eq_some_iff.mpr (List.get_mem _ _)) ?_⟩
  rw [sameKey]
  exact second.get?_eq_some_iff.mpr (List.get_mem _ _)

/-- A test that related values pass alike stops both scans at the same key. -/
theorem firstWhere?
    (pointwise : Pointwise related first second)
    (test : Value → Bool)
    (alike : ∀ left right, related left right → test left = test right) :
    (first.firstWhere? test = none ∧ second.firstWhere? test = none) ∨
      ∃ key left right,
        first.firstWhere? test = some (key, left) ∧
          second.firstWhere? test = some (key, right) := by
  have entries := pointwise.forall₂
  simp only [OrderedDict.firstWhere?]
  generalize first.entries = leftEntries at entries ⊢
  generalize second.entries = rightEntries at entries ⊢
  induction entries with
  | nil =>
      exact Or.inl ⟨rfl, rfl⟩
  | @cons left right leftRest rightRest pair rest inductionHypothesis =>
      have sameAnswer := alike left.2 right.2 pair.2
      cases passes : test right.2 with
      | true =>
          refine Or.inr ⟨left.1, left.2, right.2, ?_, ?_⟩
          · simp [sameAnswer, passes]
          · simp [passes, pair.1]
      | false =>
          simpa [sameAnswer, passes] using inductionHypothesis

end Pointwise

end Pointwise

end OrderedDict
