import SafeSignalTrader.DomainModels

/-!
# Signal sources

`SourceConfig` and `SourceRegistry` of `sources/`: a dictionary of source
configurations filed under their source id.
-/

namespace SafeSignalTrader

/-- The configuration of a signal source. -/
structure SourceConfig where
  sourceId : String
  name : String
  parserId : PyString
  parserVersion : PyString
  accountId : PyString
  profileId : PyString
  conflictPolicy : ConflictPolicy
  enabled : Bool
  sourceIdLength : 1 ≤ sourceId.length ∧ sourceId.length ≤ 64
  nameLength : 1 ≤ name.length ∧ name.length ≤ 128
  deriving Repr, DecidableEq

/-- A dictionary of sources. -/
structure SourceRegistry where
  sources : OrderedDict String SourceConfig

namespace SourceRegistry

/-- `SourceRegistry()`. -/
def empty : SourceRegistry :=
  ⟨.empty⟩

/-- File a source under its id, replacing an earlier one. -/
def register
    (registry : SourceRegistry)
    (source : SourceConfig) : SourceRegistry :=
  ⟨registry.sources.set source.sourceId source⟩

/-- The source of an id. -/
def get
    (registry : SourceRegistry)
    (sourceId : String) : Option SourceConfig :=
  registry.sources.get? sourceId

/-- All sources, in the order of their first registration. -/
def listAll (registry : SourceRegistry) : List SourceConfig :=
  registry.sources.values

/-- The sources that are switched on. -/
def listEnabled (registry : SourceRegistry) : List SourceConfig :=
  registry.sources.values.filter SourceConfig.enabled

/-- Replace a known source by a copy that is switched on or off. -/
def switch
    (registry : SourceRegistry)
    (sourceId : String)
    (enabled : Bool) : SourceRegistry × Bool :=
  match registry.get sourceId with
  | none => (registry, false)
  | some source =>
      (⟨registry.sources.set sourceId { source with enabled := enabled }⟩,
        true)

/-- Switch a source off. -/
def disable
    (registry : SourceRegistry)
    (sourceId : String) : SourceRegistry × Bool :=
  registry.switch sourceId false

/-- Switch a source on. -/
def enable
    (registry : SourceRegistry)
    (sourceId : String) : SourceRegistry × Bool :=
  registry.switch sourceId true

/-- The source of `build_example_registry`. -/
def exampleSource : SourceConfig where
  sourceId := "src_demo_alpha"
  name := "Demo Structured Channel"
  parserId := "generic_structured"
  parserVersion := "1.0.0"
  accountId := "acc_demo_1"
  profileId := "profile_default"
  conflictPolicy := .rejectSecond
  enabled := true
  sourceIdLength := by decide
  nameLength := by decide

/-- `build_example_registry`. -/
def buildExampleRegistry : SourceRegistry :=
  empty.register exampleSource

end SourceRegistry

end SafeSignalTrader
