import SafeSignalTrader.ParserRegistry
import SafeSignalTrader.TradingProfiles
import SafeSignalTrader.VersionedKeys

/-!
# Versioned lookup in the registries

Profiles and parsers are registered in the same way: under the text
`id@version` and under the id, in one dictionary.  Both are instances of the
same naming, in which an id may contain the separator, so that two pairs of id
and version may share a text and an id may be the text of a pair.
-/

namespace SafeSignalTrader

open VersionedKeys

/-- An id that does not contain the separator. -/
def PlainId (id : PyString) : Prop :=
  CodePoint.ofChar '@' ∉ id.codePoints

instance decidablePlainId : DecidablePred PlainId :=
  fun id =>
    inferInstanceAs (Decidable (CodePoint.ofChar '@' ∉ id.codePoints))

/-- Plain ids are told apart where an `@` joins id and version. -/
theorem separates_of_joined
    {Item : Type}
    {naming : Naming Item PyString}
    (joined : ∀ id version, naming.join id version = id ++ "@" ++ version) :
    naming.Separates PlainId := by
  have points (id version : PyString) :
      (naming.join id version).codePoints =
        id.codePoints ++ CodePoint.ofChar '@' :: version.codePoints := by
    rw [joined]
    simp
  have isPlain {id : PyString} (plain : PlainId id) :
      ∀ point ∈ id.codePoints,
        decide (point ≠ CodePoint.ofChar '@') = true :=
    fun _ member => decide_eq_true (ne_of_mem_of_not_mem member plain)
  constructor
  · intro id other version otherVersion plainId plainOther sameKey
    have samePoints := congrArg PyString.codePoints sameKey
    rw [points, points] at samePoints
    obtain ⟨sameId, sameRest⟩ :=
      PythonText.delimited_append_inj (isPlain plainId) (isPlain plainOther)
        (decide_eq_false (by simp)) (decide_eq_false (by simp)) samePoints
    exact ⟨PyString.ext sameId, PyString.ext (List.cons.inj sameRest).2⟩
  · intro id other version plainId sameKey
    apply plainId
    rw [← sameKey, points]
    simp

/-- Sorted lists of two sets are the same exactly if the sets are. -/
theorem sort_eq_iff {first second : Finset PyString} :
    first.sort = second.sort ↔ first = second := by
  constructor
  · intro same
    simpa only [Finset.sort_toFinset] using congrArg List.toFinset same
  · intro same
    rw [same]

namespace ProfileRegistry

/-- Register profiles one after the other. -/
def registerAll (profiles : List TradingProfile) : ProfileRegistry :=
  profiles.foldl register empty

/-- How profiles are named. -/
def naming : Naming TradingProfile PyString where
  idOf := fun profile => profile.profileId
  versionOf := TradingProfile.version
  join := versionedKey

/-- Registering profiles files them in the dictionary. -/
theorem profiles_registerAll (profiles : List TradingProfile) :
    (registerAll profiles).profiles = naming.fileAll profiles :=
  (List.foldl_hom ProfileRegistry.profiles fun _ _ => rfl).symm

/-- The registry answers as registered exactly if its keys stay apart. -/
theorem answers_iff
    {profiles : List TradingProfile}
    {id version : PyString}
    (nonempty : version ≠ "") :
    ((registerAll profiles).get id (some version) =
          latest (naming.isPinned id version) profiles ∧
        (registerAll profiles).get id =
          latest (naming.hasId id) profiles ∧
        (registerAll profiles).listIds =
          (naming.filedIds profiles).sort) ↔
      naming.KeysApart profiles id version := by
  have pinned :
      (registerAll profiles).get id (some version) =
        (naming.fileAll profiles).get? (naming.join id version) := by
    rw [← profiles_registerAll]
    exact if_pos nonempty
  have unpinned :
      (registerAll profiles).get id =
        (naming.fileAll profiles).get? id := by
    rw [← profiles_registerAll]
    rfl
  have listed :
      (registerAll profiles).listIds =
        (naming.ids (naming.fileAll profiles)).sort := by
    rw [← profiles_registerAll]
    rfl
  rw [pinned, unpinned, listed, sort_eq_iff, Naming.fileAll_answers_iff]

end ProfileRegistry

namespace ParserRegistry

variable {Object : Type}

/-- Register parsers one after the other. -/
def registerAll (parsers : List (SignalParser Object)) : ParserRegistry Object :=
  parsers.foldl register empty

/-- How parsers are named. -/
def naming : Naming (SignalParser Object) PyString where
  idOf := SignalParser.parserId
  versionOf := SignalParser.parserVersion
  join := versionedKey

/-- Registering parsers files them in the dictionary. -/
theorem parsers_registerAll (parsers : List (SignalParser Object)) :
    (registerAll parsers).parsers = naming.fileAll parsers :=
  (List.foldl_hom ParserRegistry.parsers fun _ _ => rfl).symm

/-- The registry answers as registered exactly if its keys stay apart. -/
theorem answers_iff
    {parsers : List (SignalParser Object)}
    {id version : PyString}
    (nonempty : version ≠ "") :
    ((registerAll parsers).get id (some version) =
          latest (naming.isPinned id version) parsers ∧
        (registerAll parsers).get id = latest (naming.hasId id) parsers ∧
        (registerAll parsers).listIds = (naming.filedIds parsers).sort) ↔
      naming.KeysApart parsers id version := by
  have pinned :
      (registerAll parsers).get id (some version) =
        (naming.fileAll parsers).get?
          ((naming : Naming (SignalParser Object) PyString).join id
            version) := by
    rw [← parsers_registerAll]
    exact if_pos nonempty
  have unpinned :
      (registerAll parsers).get id = (naming.fileAll parsers).get? id := by
    rw [← parsers_registerAll]
    rfl
  have listed :
      (registerAll parsers).listIds =
        (naming.ids (naming.fileAll parsers)).sort := by
    rw [← parsers_registerAll]
    rfl
  rw [pinned, unpinned, listed, sort_eq_iff, Naming.fileAll_answers_iff]

end ParserRegistry

/-- Registries whose ids do not contain the separator answer as registered. -/
theorem plainIds_keepApart
    (Object : Type)
    {id : PyString}
    (plainId : PlainId id)
    (version : PyString) :
    (∀ profiles : List TradingProfile,
        (∀ profile ∈ profiles, PlainId profile.profileId) →
          ProfileRegistry.naming.KeysApart profiles id version) ∧
      ∀ parsers : List (SignalParser Object),
        (∀ parser ∈ parsers, PlainId parser.parserId) →
          ParserRegistry.naming.KeysApart parsers id version :=
  ⟨fun _ plainProfiles =>
      (separates_of_joined fun _ _ => rfl).keysApart plainProfiles plainId
        version,
    fun _ plainParsers =>
      (separates_of_joined fun _ _ => rfl).keysApart plainParsers plainId
        version⟩

/--
After any registrations a registry answers a versioned lookup, a lookup by id
and the list of ids as registered exactly if no key it is asked for, and no
last key of an id, was taken over by an item of another id or version.
-/
theorem versionedLookup_iff
    (Object : Type)
    (id version : PyString)
    (nonempty : version ≠ "") :
    (∀ profiles : List TradingProfile,
        ((ProfileRegistry.registerAll profiles).get id (some version) =
              latest (fun profile => profile.profileId = id ∧
                profile.version = version) profiles ∧
            (ProfileRegistry.registerAll profiles).get id =
              latest (fun profile => profile.profileId = id) profiles ∧
            (ProfileRegistry.registerAll profiles).listIds =
              (profiles.map fun profile =>
                (profile.profileId : PyString)).toFinset.sort) ↔
          ProfileRegistry.naming.KeysApart profiles id version) ∧
      ∀ parsers : List (SignalParser Object),
        ((ParserRegistry.registerAll parsers).get id (some version) =
              latest (fun parser => parser.parserId = id ∧
                parser.parserVersion = version) parsers ∧
            (ParserRegistry.registerAll parsers).get id =
              latest (fun parser => parser.parserId = id) parsers ∧
            (ParserRegistry.registerAll parsers).listIds =
              (parsers.map SignalParser.parserId).toFinset.sort) ↔
          ParserRegistry.naming.KeysApart parsers id version := by
  simp only [Bool.decide_and]
  exact ⟨fun _ => ProfileRegistry.answers_iff nonempty,
    fun _ => ParserRegistry.answers_iff nonempty⟩

/-- The default profile is found at its version. -/
theorem versionedLookup_iff_default :
    ProfileRegistry.buildDefaultProfiles.get "profile_default"
        (some "1.0.0") = some ProfileRegistry.defaultProfile :=
  (((versionedLookup_iff Unit "profile_default" "1.0.0" (by decide)).1
    [ProfileRegistry.defaultProfile,
      ProfileRegistry.conservativeProfile]).mpr
        ((plainIds_keepApart Unit (by decide) "1.0.0").1 _ (by decide))).1

/-- A profile under an id and a version of its own. -/
def profileNamed
    (profileId : String)
    (version : PyString)
    (profileIdLength : 1 ≤ profileId.length ∧ profileId.length ≤ 64) :
    TradingProfile :=
  { ProfileRegistry.defaultProfile with
    profileId := profileId
    version := version
    profileIdLength := profileIdLength }

/-- The pairs `a`, `b@c` and `a@b`, `c` share a key. -/
theorem shared_key_answers_other_profile :
    ¬ ∀ (profiles : List TradingProfile) (id version : PyString),
      (∀ profile ∈ profiles, profile.version ≠ "") →
      version ≠ "" →
        (ProfileRegistry.registerAll profiles).get id (some version) =
          latest (fun profile => profile.profileId = id ∧
            profile.version = version) profiles := by
  intro answers
  have answered :=
    answers
      [profileNamed "a" "b@c" (by decide), profileNamed "a@b" "c" (by decide)]
      "a" "b@c" (by decide) (by decide)
  have sameVersion := congrArg (Option.map TradingProfile.version) answered
  exact absurd sameVersion (by decide)

end SafeSignalTrader
