import Mathlib.Data.List.Forall2
import Mathlib.Data.Set.Function
import SafeSignalTrader.JsonText
import SafeSignalTrader.SourceRegistry

/-!
# Trading profiles and configuration snapshots

`TradingProfile` and `ProfileRegistry` of `profiles/`, and the snapshot of a
source and a profile with the hash of its canonical JSON text.  The truncated
SHA-256 digest and `str` of a decimal are parameters.
-/

namespace SafeSignalTrader

open JsonText

/-- A versioned trading profile. -/
structure TradingProfile where
  profileId : String
  version : PyString
  name : String
  maxLeverage : Nat
  maxNotionalUsdt : Option Decimal
  maxLossUsdt : Decimal
  conflictPolicy : ConflictPolicy
  slMode : SlMode
  lastTpMode : LastTpMode
  allowPartials : Bool
  maxOpenPositions : Nat
  profileIdLength : 1 ≤ profileId.length ∧ profileId.length ≤ 64
  nameLength : 1 ≤ name.length ∧ name.length ≤ 128
  maxLeverageInRange : 1 ≤ maxLeverage ∧ maxLeverage ≤ 125
  maxOpenPositionsInRange : 1 ≤ maxOpenPositions ∧ maxOpenPositions ≤ 50
  deriving Repr

/-- Profiles by versioned key and by bare id. -/
structure ProfileRegistry where
  profiles : OrderedDict PyString TradingProfile

namespace ProfileRegistry

/-- `ProfileRegistry()`. -/
def empty : ProfileRegistry :=
  ⟨.empty⟩

/-- The key of a profile id at a version. -/
def versionedKey (profileId version : PyString) : PyString :=
  profileId ++ "@" ++ version

/-- File a profile under its versioned key and, latest wins, its bare id. -/
def register
    (registry : ProfileRegistry)
    (profile : TradingProfile) : ProfileRegistry :=
  ⟨(registry.profiles.set
      (versionedKey profile.profileId profile.version) profile).set
        profile.profileId profile⟩

/-- The profile of an id, at a version unless it is missing or empty. -/
def get
    (registry : ProfileRegistry)
    (profileId : PyString)
    (version : Option PyString := none) : Option TradingProfile :=
  match version with
  | some version =>
      if version ≠ "" then
        registry.profiles.get? (versionedKey profileId version)
      else
        registry.profiles.get? profileId
  | none => registry.profiles.get? profileId

/-- The ids of the stored profiles, sorted. -/
def listIds (registry : ProfileRegistry) : List PyString :=
  PythonText.sortedSet
    (registry.profiles.values.map fun profile => profile.profileId)

/-- The first profile of `build_default_profiles`. -/
def defaultProfile : TradingProfile where
  profileId := "profile_default"
  version := "1.0.0"
  name := "Default Safe Profile"
  maxLeverage := 10
  maxNotionalUsdt := some 100
  maxLossUsdt := 10
  conflictPolicy := .rejectSecond
  slMode := .breakEven
  lastTpMode := .trailing
  allowPartials := false
  maxOpenPositions := 3
  profileIdLength := by decide
  nameLength := by decide
  maxLeverageInRange := by decide
  maxOpenPositionsInRange := by decide

/-- The second profile of `build_default_profiles`. -/
def conservativeProfile : TradingProfile where
  profileId := "profile_conservative"
  version := "1.0.0"
  name := "Conservative"
  maxLeverage := 5
  maxNotionalUsdt := some 50
  maxLossUsdt := 5
  conflictPolicy := .rejectSecond
  slMode := .breakEven
  lastTpMode := .trailing
  allowPartials := false
  maxOpenPositions := 2
  profileIdLength := by decide
  nameLength := by decide
  maxLeverageInRange := by decide
  maxOpenPositionsInRange := by decide

/-- `build_default_profiles`. -/
def buildDefaultProfiles : ProfileRegistry :=
  (empty.register defaultProfile).register conservativeProfile

end ProfileRegistry

section Snapshots

variable (digest : String → String)
variable (render : Decimal → String)

/-- `_dec_str`. -/
def decStr (value : Option Decimal) : Scalar :=
  match value with
  | some value => .str (render value)
  | none => .null

/-- What `build_snapshot` hashes. -/
def snapshotPayload
    (source : SourceConfig)
    (profile : TradingProfile)
    (schemaVersion : PyString := "1.0.0") : OrderedDict String Scalar where
  entries :=
    [("schema_version", .str schemaVersion),
      ("source_id", .str source.sourceId),
      ("account_id", .str source.accountId),
      ("profile_id", .str profile.profileId),
      ("profile_version", .str profile.version),
      ("conflict_policy", .str profile.conflictPolicy.value),
      ("max_leverage", .int profile.maxLeverage),
      ("max_notional_usdt", decStr render profile.maxNotionalUsdt),
      ("max_loss_usdt", decStr render (some profile.maxLossUsdt)),
      ("sl_mode", .str profile.slMode.value),
      ("last_tp_mode", .str profile.lastTpMode.value),
      ("allow_partials", .bool profile.allowPartials)]
  keysNodup := by simp

/-- `compute_config_hash`. -/
def computeConfigHash (payload : OrderedDict String Scalar) : String :=
  digest (dumps payload)

/-- `build_snapshot`. -/
def buildSnapshot
    (source : SourceConfig)
    (profile : TradingProfile)
    (schemaVersion : PyString := "1.0.0") : EffectiveConfigSnapshot where
  schemaVersion := schemaVersion
  sourceId := source.sourceId
  accountId := source.accountId
  profileId := profile.profileId
  profileVersion := profile.version
  conflictPolicy := profile.conflictPolicy
  maxLeverage := profile.maxLeverage
  maxNotionalUsdt := profile.maxNotionalUsdt
  maxLossUsdt := some profile.maxLossUsdt
  slMode := profile.slMode
  lastTpMode := profile.lastTpMode
  allowPartials := profile.allowPartials
  configHash :=
    computeConfigHash digest
      (snapshotPayload render source profile schemaVersion)
  maxLeverageInRange := profile.maxLeverageInRange

variable {digest : String → String}
variable {render : Decimal → String}

/-- A rendered decimal determines the decimal. -/
theorem decStr_injective
    (renderInjective : Function.Injective render)
    {first second : Option Decimal}
    (same : (decStr render first).Alike (decStr render second)) :
    first = second := by
  cases first with
  | none =>
      cases second with
      | none => rfl
      | some value => cases same
  | some value =>
      cases second with
      | none => cases same
      | some other =>
          rw [renderInjective (PyString.eq_of_utf16_ofString same)]

/-- Two snapshots agree on every field but the config hash. -/
structure SameConfiguration
    (sameText : PyString → PyString → Prop)
    (first second : EffectiveConfigSnapshot) : Prop where
  schemaVersion : sameText first.schemaVersion second.schemaVersion
  sourceId : first.sourceId = second.sourceId
  accountId : sameText first.accountId second.accountId
  profileId : first.profileId = second.profileId
  profileVersion : sameText first.profileVersion second.profileVersion
  conflictPolicy : first.conflictPolicy = second.conflictPolicy
  maxLeverage : first.maxLeverage = second.maxLeverage
  maxNotionalUsdt : first.maxNotionalUsdt = second.maxNotionalUsdt
  maxLossUsdt : first.maxLossUsdt = second.maxLossUsdt
  slMode : first.slMode = second.slMode
  lastTpMode : first.lastTpMode = second.lastTpMode
  allowPartials : first.allowPartials = second.allowPartials

/-- No text of a snapshot writes a character as a pair of surrogates. -/
structure UnpairedTexts (snapshot : EffectiveConfigSnapshot) : Prop where
  schemaVersion : snapshot.schemaVersion.Unpaired
  accountId : snapshot.accountId.Unpaired
  profileVersion : snapshot.profileVersion.Unpaired

/--
Two snapshots agree on every field but the config hash, if the texts are
compared by their 16-bit units.
-/
abbrev SameUnitsConfiguration :
    EffectiveConfigSnapshot → EffectiveConfigSnapshot → Prop :=
  SameConfiguration fun first second => first.utf16 = second.utf16

/-- Without pairs of surrogates the texts themselves agree. -/
theorem SameConfiguration.of_units
    {first second : EffectiveConfigSnapshot}
    (agree : SameUnitsConfiguration first second)
    (firstUnpaired : UnpairedTexts first)
    (secondUnpaired : UnpairedTexts second) :
    SameConfiguration Eq first second :=
  { agree with
    schemaVersion :=
      PyString.eq_of_utf16_eq firstUnpaired.schemaVersion
        secondUnpaired.schemaVersion agree.schemaVersion
    accountId :=
      PyString.eq_of_utf16_eq firstUnpaired.accountId
        secondUnpaired.accountId agree.accountId
    profileVersion :=
      PyString.eq_of_utf16_eq firstUnpaired.profileVersion
        secondUnpaired.profileVersion agree.profileVersion }

/-- One hashed text is the text of one configuration. -/
theorem buildSnapshot_sameConfiguration
    (renderInjective : Function.Injective render)
    {firstSource secondSource : SourceConfig}
    {firstProfile secondProfile : TradingProfile}
    {firstSchema secondSchema : PyString}
    (same : dumps (snapshotPayload render firstSource firstProfile
        firstSchema) =
      dumps (snapshotPayload render secondSource secondProfile
        secondSchema)) :
    SameUnitsConfiguration
      (buildSnapshot digest render firstSource firstProfile firstSchema)
      (buildSnapshot digest render secondSource secondProfile
        secondSchema) := by
  have sameKeys :
      (snapshotPayload render firstSource firstProfile firstSchema).keys =
        (snapshotPayload render secondSource secondProfile
          secondSchema).keys := by
    simp only [OrderedDict.keys, snapshotPayload, List.map_cons,
      List.map_nil]
  have sameEntries := entries_alike_of_dumps_eq sameKeys same
  simp only [snapshotPayload, List.forall₂_cons, List.forall₂_nil_left_iff,
    AlikeMembers, true_and, and_true] at sameEntries
  obtain ⟨schema, sourceId, accountId, profileId, version, policy, leverage,
    notional, loss, slMode, lastTpMode, partials⟩ := sameEntries
  exact {
    schemaVersion := schema
    sourceId := PyString.eq_of_utf16_ofString sourceId
    accountId := accountId
    profileId := PyString.eq_of_utf16_ofString profileId
    profileVersion := version
    conflictPolicy :=
      ConflictPolicy.value_injective (PyString.eq_of_utf16_ofString policy)
    maxLeverage := Int.ofNat_inj.mp (Scalar.int.inj leverage)
    maxNotionalUsdt := decStr_injective renderInjective notional
    maxLossUsdt := decStr_injective renderInjective loss
    slMode := SlMode.value_injective (PyString.eq_of_utf16_ofString slMode)
    lastTpMode :=
      LastTpMode.value_injective (PyString.eq_of_utf16_ofString lastTpMode)
    allowPartials := Scalar.bool.inj partials }

/-- Under one source a config hash leaves only the profile version open. -/
theorem buildSnapshot_eq_of_configHash_eq
    (noCollision : Function.Injective digest)
    (renderInjective : Function.Injective render)
    {source : SourceConfig}
    {first second : TradingProfile}
    (sameHash :
      (buildSnapshot digest render source first).configHash =
        (buildSnapshot digest render source second).configHash) :
    buildSnapshot digest render source second =
      { buildSnapshot digest render source first with
        profileVersion := second.version } := by
  have agree :
      SameUnitsConfiguration (buildSnapshot digest render source first)
        (buildSnapshot digest render source second) :=
    buildSnapshot_sameConfiguration renderInjective (noCollision sameHash)
  have profileId : first.profileId = second.profileId := agree.profileId
  have policy : first.conflictPolicy = second.conflictPolicy :=
    agree.conflictPolicy
  have leverage : first.maxLeverage = second.maxLeverage :=
    agree.maxLeverage
  have notional : first.maxNotionalUsdt = second.maxNotionalUsdt :=
    agree.maxNotionalUsdt
  have loss : first.maxLossUsdt = second.maxLossUsdt :=
    Option.some.inj agree.maxLossUsdt
  have slMode : first.slMode = second.slMode := agree.slMode
  have lastTpMode : first.lastTpMode = second.lastTpMode :=
    agree.lastTpMode
  have partials : first.allowPartials = second.allowPartials :=
    agree.allowPartials
  have sameDigest :
      computeConfigHash digest (snapshotPayload render source first) =
        computeConfigHash digest (snapshotPayload render source second) :=
    sameHash
  simp only [buildSnapshot, profileId, policy, leverage, notional, loss,
    slMode, lastTpMode, partials, sameDigest]

/--
Two configurations with one hashed text agree on every effective field, and so
do two with one config hash if the digest has no collision on the texts that
are hashed.  The texts among the fields agree by their 16-bit units, and so
are the same if neither snapshot pairs surrogates.
-/
theorem configHash_separates
    (digest : String → String)
    (render : Decimal → String)
    (renderInjective : Function.Injective render)
    (firstSource secondSource : SourceConfig)
    (firstProfile secondProfile : TradingProfile)
    (firstSchema secondSchema : PyString) :
    let first :=
      buildSnapshot digest render firstSource firstProfile firstSchema
    let second :=
      buildSnapshot digest render secondSource secondProfile secondSchema
    let firstText :=
      dumps (snapshotPayload render firstSource firstProfile firstSchema)
    let secondText :=
      dumps (snapshotPayload render secondSource secondProfile secondSchema)
    (firstText = secondText ∨
        ∃ hashed : Set String,
          Set.InjOn digest hashed ∧ firstText ∈ hashed ∧
            secondText ∈ hashed ∧ first.configHash = second.configHash) →
      SameUnitsConfiguration first second ∧
        (UnpairedTexts first → UnpairedTexts second →
          SameConfiguration Eq first second) := by
  intro first second firstText secondText sameHashed
  have sameText : firstText = secondText := by
    rcases sameHashed with same | ⟨hashed, noCollision, firstHashed,
      secondHashed, sameHash⟩
    · exact same
    · exact noCollision firstHashed secondHashed sameHash
  have agree : SameUnitsConfiguration first second :=
    buildSnapshot_sameConfiguration renderInjective sameText
  exact ⟨agree, agree.of_units⟩

/-- The example source and one of another name have one configuration. -/
theorem configHash_separates_renamedSource :
    SameUnitsConfiguration
      (buildSnapshot (fun _ => "532d9fa8cc9864aff7d3f739375e1c6e")
        PythonText.fractionText SourceRegistry.exampleSource
        ProfileRegistry.defaultProfile)
      (buildSnapshot (fun _ => "532d9fa8cc9864aff7d3f739375e1c6e")
        PythonText.fractionText
        { SourceRegistry.exampleSource with
          name := "Renamed"
          nameLength := by decide }
        ProfileRegistry.defaultProfile) :=
  (configHash_separates (fun _ => "532d9fa8cc9864aff7d3f739375e1c6e")
    PythonText.fractionText PythonText.fractionText_injective
    SourceRegistry.exampleSource _ ProfileRegistry.defaultProfile _ "1.0.0"
    "1.0.0"
    (Or.inr ⟨{dumps (snapshotPayload PythonText.fractionText
      SourceRegistry.exampleSource ProfileRegistry.defaultProfile)},
      Set.injOn_singleton _ _, rfl, rfl, rfl⟩)).1

/-- The example source under another account. -/
def sourceOfAccount (accountId : PyString) : SourceConfig :=
  { SourceRegistry.exampleSource with accountId := accountId }

/-- A character and its pair of surrogates have one hashed text. -/
theorem surrogatePair_hashes_alike :
    ¬ ∀ (digest : String → String) (render : Decimal → String)
        (firstSource secondSource : SourceConfig)
        (firstProfile secondProfile : TradingProfile)
        (firstSchema secondSchema : PyString),
      Function.Injective render →
      dumps (snapshotPayload render firstSource firstProfile firstSchema) =
          dumps (snapshotPayload render secondSource secondProfile
            secondSchema) →
        SameConfiguration Eq
          (buildSnapshot digest render firstSource firstProfile firstSchema)
          (buildSnapshot digest render secondSource secondProfile
            secondSchema) := by
  intro separates
  have agree :=
    separates (fun _ => "") PythonText.fractionText
      (sourceOfAccount ⟨[0xD83D, 0xDE00]⟩) (sourceOfAccount ⟨[0x1F600]⟩)
      ProfileRegistry.defaultProfile ProfileRegistry.defaultProfile "1.0.0"
      "1.0.0" PythonText.fractionText_injective (by decide +kernel)
  exact absurd agree.accountId (by decide)

end Snapshots

end SafeSignalTrader
