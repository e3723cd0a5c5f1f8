import Mathlib.Algebra.BigOperators.Group.Finset.Basic
import Mathlib.Algebra.BigOperators.Group.List.Basic
import SafeSignalTrader.OrderedDict

/-!
# Totals over dictionaries

The sum of a measure over all entries of a dictionary, and how it moves when
one entry is set, mutated or erased.
-/

namespace OrderedDict

variable {Key Value Number : Type}

/-- The sum of a measure over all entries. -/
def total
    [AddCommMonoid Number]
    (dict : OrderedDict Key Value)
    (measure : Key → Value → Number) : Number :=
  (dict.entries.map fun entry => measure entry.1 entry.2).sum

/-- Measures that agree on the stored entries have one total. -/
theorem total_congr
    [DecidableEq Key]
    [AddCommMonoid Number]
    {dict : OrderedDict Key Value}
    {first second : Key → Value → Number}
    (agree : ∀ key value,
      dict.get? key = some value → first key value = second key value) :
    dict.total first = dict.total second := by
  unfold total
  congr 1
  apply List.map_congr_left
  intro entry member
  exact agree entry.1 entry.2 (dict.get?_eq_some_iff.mpr member)

/-- The total of a difference is the difference of the totals. -/
theorem total_sub
    [AddCommGroup Number]
    (dict : OrderedDict Key Value)
    (first second : Key → Value → Number) :
    dict.total (fun key value => first key value - second key value) =
      dict.total first - dict.total second := by
  rw [eq_sub_iff_add_eq, total, total, total, ← List.sum_map_add]
  simp only [sub_add_cancel]

/-- The measure of the entry of a key; zero without one. -/
def measureAt
    [DecidableEq Key]
    [Zero Number]
    (dict : OrderedDict Key Value)
    (measure : Key → Value → Number)
    (key : Key) : Number :=
  match dict.get? key with
  | some value => measure key value
  | none => 0

section Split

variable [DecidableEq Key] [AddCommMonoid Number]
variable (dict : OrderedDict Key Value)
variable (measure : Key → Value → Number)
variable (key : Key)

/-- The total is that of the other entries and the measure of one key. -/
theorem total_split :
    dict.total measure =
      (dict.erase key).total measure + dict.measureAt measure key := by
  obtain ⟨entries, keysNodup⟩ := dict
  simp only [total, erase, measureAt, get?]
  induction entries with
  | nil =>
      simp
  | cons entry rest inductionHypothesis =>
      have restNodup := (List.nodup_cons.mp keysNodup).2
      have split := inductionHypothesis restNodup
      by_cases here : entry.1 = key
      · have absent : ∀ other ∈ rest, other.1 ≠ key := by
          intro other member same
          apply (List.nodup_cons.mp keysNodup).1
          rw [here, ← same]
          exact List.mem_map_of_mem member
        have kept :
            (rest.filter fun other => !decide (other.1 = key)) = rest := by
          rw [List.filter_eq_self]
          intro other member
          simpa using absent other member
        simp [here, kept, add_comm]
      · simp only [List.map_cons, List.sum_cons, List.filter_cons, here,
          ne_eq, not_false_eq_true, decide_true, ↓reduceIte,
          List.find?_cons, decide_false] at split ⊢
        rw [split, add_assoc]

/-- Without the key, nothing else changes by setting it. -/
theorem erase_set (value : Value) :
    (dict.set key value).erase key = dict.erase key := by
  apply OrderedDict.ext
  simp only [erase, set]
  induction dict.entries with
  | nil =>
      simp [assign]
  | cons entry rest inductionHypothesis =>
      by_cases here : entry.1 = key
      · simp [assign, here]
      · simpa [assign, here] using inductionHypothesis

/-- Without the key, nothing else changes by mutating it. -/
theorem erase_modify (change : Value → Value) :
    (dict.modify key change).erase key = dict.erase key := by
  apply OrderedDict.ext
  simp only [erase, modify, List.filter_map]
  induction dict.entries with
  | nil =>
      rfl
  | cons entry rest inductionHypothesis =>
      by_cases here : entry.1 = key
      · simpa [here] using inductionHypothesis
      · simpa [here] using inductionHypothesis

/-- Erasing a key twice is erasing it once. -/
theorem erase_erase :
    (dict.erase key).erase key = dict.erase key := by
  apply OrderedDict.ext
  simp [erase]

end Split

section Sum

open scoped BigOperators

variable [DecidableEq Key] [AddCommMonoid Number]

/-- The measure of a key is not that of another one. -/
theorem measureAt_erase
    (dict : OrderedDict Key Value)
    (measure : Key → Value → Number)
    {key other : Key}
    (different : other ≠ key) :
    (dict.erase key).measureAt measure other =
      dict.measureAt measure other := by
  rw [measureAt, get?_erase, if_neg different, measureAt]

/-- The total is the sum of the measures of any keys that cover the stored. -/
theorem total_eq_sum
    (dict : OrderedDict Key Value)
    (measure : Key → Value → Number)
    {keys : Finset Key}
    (covers : ∀ key value, dict.get? key = some value → key ∈ keys) :
    dict.total measure = ∑ key ∈ keys, dict.measureAt measure key := by
  induction keys using Finset.induction_on generalizing dict with
  | empty =>
      have noEntries : dict.entries = [] := by
        apply List.eq_nil_iff_forall_not_mem.mpr
        intro entry member
        exact Finset.notMem_empty _
          (covers entry.1 entry.2 (dict.get?_eq_some_iff.mpr member))
      rw [total, noEntries]
      rfl
  | insert key rest fresh inductionHypothesis =>
      have restCovers : ∀ other value,
          (dict.erase key).get? other = some value → other ∈ rest := by
        intro other value stored
        rw [get?_erase] at stored
        by_cases here : other = key
        · rw [if_pos here] at stored
          cases stored
        · rw [if_neg here] at stored
          exact Finset.mem_of_mem_insert_of_ne (covers other value stored)
            here
      have restSum :
          ∑ other ∈ rest, (dict.erase key).measureAt measure other =
            ∑ other ∈ rest, dict.measureAt measure other := by
        apply Finset.sum_congr rfl
        intro other member
        apply measureAt_erase
        intro same
        exact fresh (same ▸ member)
      rw [dict.total_split measure key, Finset.sum_insert fresh,
        inductionHypothesis _ restCovers, restSum, add_comm]

end Sum

/-- Dictionaries that store the same differ in their order at most. -/
theorem values_perm
    [DecidableEq Key]
    {first second : OrderedDict Key Value}
    (same : ∀ key, first.get? key = second.get? key) :
    first.values.Perm second.values := by
  have entries : first.entries.Perm second.entries := by
    refine (List.perm_ext_iff_of_nodup first.keysNodup.of_map
      second.keysNodup.of_map).mpr ?_
    intro entry
    rw [← first.get?_eq_some_iff, ← second.get?_eq_some_iff, same]
  exact entries.map Prod.snd

section Change

variable [DecidableEq Key] [AddCommGroup Number]
variable {dict : OrderedDict Key Value}
variable {measure : Key → Value → Number}
variable {key : Key}

/-- Two dictionaries that agree off a key differ by its measures. -/
theorem total_of_erase_eq
    {after : OrderedDict Key Value}
    (sameOthers : after.erase key = dict.erase key) :
    after.total measure =
      dict.total measure - dict.measureAt measure key +
        after.measureAt measure key := by
  rw [after.total_split measure key, dict.total_split measure key,
    sameOthers, add_sub_cancel_right]

end Change

end OrderedDict
