import Mathlib.Data.Finset.Sort
import Mathlib.Data.List.Infix
import SafeSignalTrader.OrderedDict

/-!
# Versioned keys in one flat map

Items with an id and a version are filed twice in one map, under a key joined
from the two and under the bare id.  A lookup by key finds the last item that
wrote this key, which is the item asked for unless a later one with another id
or version wrote the same key.
-/

namespace VersionedKeys

variable {Item Name : Type}

section Latest

/-- The last item that passes a test. -/
def latest (test : Item → Bool) (items : List Item) : Option Item :=
  items.reverse.find? test

theorem latest_append_singleton
    (test : Item → Bool)
    (items : List Item)
    (item : Item) :
    latest test (items ++ [item]) =
      if test item then some item else latest test items := by
  simp only [latest, List.reverse_append, List.reverse_cons,
    List.reverse_nil, List.nil_append, List.singleton_append,
    List.find?_cons]
  cases test item <;> rfl

/-- The last item that passes is one after which none passes. -/
theorem latest_eq_some_iff
    {test : Item → Bool}
    {items : List Item}
    {item : Item} :
    latest test items = some item ↔
      test item = true ∧
        ∃ later, (item :: later) <:+ items ∧
          ∀ other ∈ later, test other = false := by
  rw [latest, List.find?_eq_some_iff_append]
  refine and_congr_right fun _ => ?_
  constructor
  · rintro ⟨newer, older, shape, refused⟩
    refine ⟨newer.reverse, ⟨older.reverse, ?_⟩, ?_⟩
    · have restored := congrArg List.reverse shape
      simpa using restored.symm
    · intro other member
      simpa using refused other (List.mem_reverse.mp member)
  · rintro ⟨later, ⟨front, rfl⟩, refused⟩
    refine ⟨later.reverse, front.reverse, by simp, ?_⟩
    intro other member
    simpa using refused other (List.mem_reverse.mp member)

/-- Nothing passes exactly if no item does. -/
theorem latest_eq_none_iff
    {test : Item → Bool}
    {items : List Item} :
    latest test items = none ↔ ∀ item ∈ items, test item = false := by
  simp [latest]

/-- Every item that passes only the loose test is followed by a strict one. -/
def Superseded
    (loose strict : Item → Bool)
    (items : List Item) : Prop :=
  ∀ item later, (item :: later) <:+ items →
    loose item = true → strict item = false →
      ∃ other ∈ later, strict other = true

theorem superseded_append_singleton_iff
    {loose strict : Item → Bool}
    {items : List Item}
    {last : Item} :
    Superseded loose strict (items ++ [last]) ↔
      strict last = true ∨
        (loose last = false ∧ Superseded loose strict items) := by
  constructor
  · intro superseded
    cases isStrict : strict last with
    | true =>
        exact Or.inl rfl
    | false =>
        refine Or.inr ⟨?_, ?_⟩
        · by_contra isLoose
          obtain ⟨_, impossible, _⟩ :=
            superseded last [] (List.suffix_append items [last])
              (by simpa using isLoose) isStrict
          cases impossible
        · intro item later suffix isLoose notStrict
          obtain ⟨other, member, otherStrict⟩ :=
            superseded item (later ++ [last])
              (List.suffix_concat_iff.mpr (Or.inr ⟨_, rfl, suffix⟩))
              isLoose notStrict
          rcases List.mem_append.mp member with inLater | isLast
          · exact ⟨other, inLater, otherStrict⟩
          · rw [List.mem_singleton.mp isLast, isStrict] at otherStrict
            cases otherStrict
  · intro split item later suffix isLoose notStrict
    obtain impossible | ⟨front, shape, frontSuffix⟩ :=
      List.suffix_concat_iff.mp suffix
    · cases impossible
    · cases front with
      | nil =>
          cases shape
          rcases split with isStrict | ⟨notLoose, _⟩
          · rw [isStrict] at notStrict
            cases notStrict
          · rw [notLoose] at isLoose
            cases isLoose
      | cons first rest =>
          cases shape
          rcases split with isStrict | ⟨_, superseded⟩
          · exact ⟨last, by simp, isStrict⟩
          · obtain ⟨other, member, otherStrict⟩ :=
              superseded item rest frontSuffix isLoose notStrict
            exact ⟨other, List.mem_append_left _ member, otherStrict⟩

/-- A loose search agrees with a strict one exactly if strict items come last. -/
theorem latest_eq_latest_iff
    {loose strict : Item → Bool}
    (narrower : ∀ item, strict item = true → loose item = true)
    (items : List Item) :
    latest loose items = latest strict items ↔
      Superseded loose strict items := by
  induction items using List.reverseRecOn with
  | nil =>
      refine iff_of_true rfl ?_
      intro item later suffix
      cases List.suffix_nil.mp suffix
  | append_singleton earlier last inductionHypothesis =>
      rw [latest_append_singleton, latest_append_singleton,
        superseded_append_singleton_iff, ← inductionHypothesis]
      cases isStrict : strict last with
      | true =>
          simp [narrower last isStrict]
      | false =>
          cases isLoose : loose last with
          | false =>
              simp
          | true =>
              simp only [↓reduceIte, Bool.false_eq_true, Bool.true_eq_false,
                false_and, or_self, iff_false]
              intro found
              have passes := (latest_eq_some_iff.mp found.symm).1
              rw [isStrict] at passes
              cases passes

end Latest

/-- How items are named and how an id and a version make a key. -/
structure Naming (Item Name : Type) where
  idOf : Item → Name
  versionOf : Item → Name
  join : Name → Name → Name

namespace Naming

variable [DecidableEq Name]
variable (naming : Naming Item Name)

/-- The key an item is filed under besides its id. -/
def key (item : Item) : Name :=
  naming.join (naming.idOf item) (naming.versionOf item)

/-- Filing the item sets this key. -/
def writes (key : Name) (item : Item) : Bool :=
  decide (naming.key item = key) || decide (naming.idOf item = key)

/-- The item has this id. -/
def hasId (id : Name) (item : Item) : Bool :=
  decide (naming.idOf item = id)

/-- The item has this id and this version. -/
def isPinned (id version : Name) (item : Item) : Bool :=
  decide (naming.idOf item = id) && decide (naming.versionOf item = version)

/-- File an item under its joined key and under its id. -/
def file (dict : OrderedDict Name Item) (item : Item) :
    OrderedDict Name Item :=
  (dict.set (naming.key item) item).set (naming.idOf item) item

/-- File items one after the other. -/
def fileAll (items : List Item) : OrderedDict Name Item :=
  items.foldl naming.file .empty

/-- The ids of the items a map still holds. -/
def ids (dict : OrderedDict Name Item) : Finset Name :=
  (dict.values.map naming.idOf).toFinset

/-- The ids of all items filed. -/
def filedIds (items : List Item) : Finset Name :=
  (items.map naming.idOf).toFinset

theorem fileAll_append_singleton (items : List Item) (item : Item) :
    naming.fileAll (items ++ [item]) =
      naming.file (naming.fileAll items) item := by
  simp [fileAll]

/-- A lookup finds the last item that wrote the key. -/
theorem get?_fileAll (items : List Item) (key : Name) :
    (naming.fileAll items).get? key = latest (naming.writes key) items := by
  induction items using List.reverseRecOn with
  | nil =>
      rfl
  | append_singleton earlier item inductionHypothesis =>
      rw [fileAll_append_singleton, latest_append_singleton, file,
        OrderedDict.get?_set, OrderedDict.get?_set, inductionHypothesis]
      by_cases underId : naming.idOf item = key
      · simp [writes, underId]
      · by_cases underKey : naming.key item = key
        · simp [writes, underKey]
        · simp [writes, underId, underKey, Ne.symm underId,
            Ne.symm underKey]

section Lookups

variable {naming}
variable {items : List Item}
variable {id version : Name}

/-- Another item that wrote the key of a pin is followed by the pinned one. -/
def PinsApart
    (naming : Naming Item Name)
    (items : List Item)
    (id version : Name) : Prop :=
  Superseded (naming.writes (naming.join id version))
    (naming.isPinned id version) items

/-- An item with another id that wrote an id is followed by one with it. -/
def IdApart
    (naming : Naming Item Name)
    (items : List Item)
    (id : Name) : Prop :=
  Superseded (naming.writes id) (naming.hasId id) items

/-- Some item with this id wrote a key that none wrote after it. -/
def Survives
    (naming : Naming Item Name)
    (items : List Item)
    (id : Name) : Prop :=
  ∃ item later, (item :: later) <:+ items ∧ naming.idOf item = id ∧
    ∃ key, naming.writes key item = true ∧
      ∀ other ∈ later, naming.writes key other = false

/-- A lookup by id and version finds the last item pinned by them. -/
theorem get?_join_iff :
    (naming.fileAll items).get? (naming.join id version) =
        latest (naming.isPinned id version) items ↔
      naming.PinsApart items id version := by
  rw [get?_fileAll]
  apply latest_eq_latest_iff
  intro item pinned
  simp only [isPinned, Bool.and_eq_true, decide_eq_true_eq] at pinned
  simp [writes, key, pinned.1, pinned.2]

/-- A lookup by id finds the last item with that id. -/
theorem get?_id_iff :
    (naming.fileAll items).get? id = latest (naming.hasId id) items ↔
      naming.IdApart items id := by
  rw [get?_fileAll]
  apply latest_eq_latest_iff
  intro item owns
  simp only [hasId, decide_eq_true_eq] at owns
  simp [writes, owns]

/-- The ids a map still holds are those that survive. -/
theorem mem_ids_iff :
    id ∈ naming.ids (naming.fileAll items) ↔ naming.Survives items id := by
  simp only [ids, List.mem_toFinset, List.mem_map,
    OrderedDict.mem_values_iff, get?_fileAll, latest_eq_some_iff, Survives]
  constructor
  · rintro ⟨item, ⟨key, written, later, suffix, refused⟩, named⟩
    exact ⟨item, later, suffix, named, key, written, refused⟩
  · rintro ⟨item, later, suffix, named, key, written, refused⟩
    exact ⟨item, ⟨key, written, later, suffix, refused⟩, named⟩

/-- The map holds all ids filed exactly if every one of them survives. -/
theorem ids_eq_iff :
    naming.ids (naming.fileAll items) = naming.filedIds items ↔
      ∀ item ∈ items, naming.Survives items (naming.idOf item) := by
  constructor
  · intro same item member
    rw [← mem_ids_iff, same]
    exact List.mem_toFinset.mpr (List.mem_map_of_mem member)
  · intro survive
    ext id
    rw [mem_ids_iff, filedIds, List.mem_toFinset]
    constructor
    · rintro ⟨item, later, suffix, named, _⟩
      rw [← named]
      exact List.mem_map_of_mem (suffix.subset List.mem_cons_self)
    · intro filed
      obtain ⟨item, member, rfl⟩ := List.mem_map.mp filed
      exact survive item member

/-- No key asked for is taken by an item it does not belong to. -/
structure KeysApart
    (naming : Naming Item Name)
    (items : List Item)
    (id version : Name) : Prop where
  pins : naming.PinsApart items id version
  latest : naming.IdApart items id
  held : ∀ item ∈ items, naming.Survives items (naming.idOf item)

/-- The map answers as its items were filed exactly if the keys stay apart. -/
theorem fileAll_answers_iff :
    ((naming.fileAll items).get? (naming.join id version) =
          VersionedKeys.latest (naming.isPinned id version) items ∧
        (naming.fileAll items).get? id =
          VersionedKeys.latest (naming.hasId id) items ∧
        naming.ids (naming.fileAll items) = naming.filedIds items) ↔
      naming.KeysApart items id version := by
  rw [get?_join_iff, get?_id_iff, ids_eq_iff]
  constructor
  · rintro ⟨pins, latest, held⟩
    exact ⟨pins, latest, held⟩
  · intro apart
    exact ⟨apart.pins, apart.latest, apart.held⟩

end Lookups

end Naming

/-- Ids from which the two families of keys can be told apart. -/
structure Naming.Separates
    (naming : Naming Item Name)
    (plain : Name → Prop) : Prop where
  joinInjective :
    ∀ {id other version otherVersion}, plain id → plain other →
      naming.join id version = naming.join other otherVersion →
        id = other ∧ version = otherVersion
  joinNotId :
    ∀ {id other version}, plain id → naming.join other version ≠ id

namespace Naming.Separates

variable [DecidableEq Name]
variable {naming : Naming Item Name}
variable {plain : Name → Prop}
variable {items : List Item}

/-- Only the item asked for writes the key of a pin. -/
theorem pinsApart
    (separates : naming.Separates plain)
    (plainItems : ∀ item ∈ items, plain (naming.idOf item))
    {id : Name}
    (plainId : plain id)
    (version : Name) :
    naming.PinsApart items id version := by
  intro item later suffix written notPinned
  have plainItem := plainItems item (suffix.subset List.mem_cons_self)
  simp only [writes, Bool.or_eq_true, decide_eq_true_eq] at written
  rcases written with sameKey | isId
  · obtain ⟨sameId, sameVersion⟩ :=
      separates.joinInjective plainItem plainId sameKey
    simp [isPinned, sameId, sameVersion] at notPinned
  · exact (separates.joinNotId plainItem isId.symm).elim

/-- Only an item with the id writes it. -/
theorem idApart
    (separates : naming.Separates plain)
    {id : Name}
    (plainId : plain id) :
    naming.IdApart items id := by
  intro item later _ written notOwn
  simp only [writes, Bool.or_eq_true, decide_eq_true_eq] at written
  rcases written with isKey | isId
  · exact (separates.joinNotId plainId isKey).elim
  · simp [hasId, isId] at notOwn

/-- Every id is still held under itself. -/
theorem survives
    (separates : naming.Separates plain)
    {item : Item}
    (member : item ∈ items)
    (plainId : plain (naming.idOf item)) :
    naming.Survives items (naming.idOf item) := by
  have stored : (latest (naming.hasId (naming.idOf item)) items).isSome := by
    by_contra absent
    have refused :=
      latest_eq_none_iff.mp (by simpa using absent) item member
    simp [hasId] at refused
  obtain ⟨last, found⟩ := Option.isSome_iff_exists.mp stored
  obtain ⟨owns, later, suffix, refused⟩ := latest_eq_some_iff.mp found
  simp only [hasId, decide_eq_true_eq, decide_eq_false_iff_not]
    at owns refused
  refine ⟨last, later, suffix, owns, naming.idOf item,
    by simp [writes, owns], ?_⟩
  intro other inLater
  have notKey : naming.key other ≠ naming.idOf item :=
    separates.joinNotId plainId
  simp [writes, notKey, refused other inLater]

/-- Plain ids keep all keys apart. -/
theorem keysApart
    (separates : naming.Separates plain)
    (plainItems : ∀ item ∈ items, plain (naming.idOf item))
    {id : Name}
    (plainId : plain id)
    (version : Name) :
    naming.KeysApart items id version where
  pins := separates.pinsApart plainItems plainId version
  latest := separates.idApart plainId
  held := fun item member => separates.survives member (plainItems item member)

end Naming.Separates

end VersionedKeys
