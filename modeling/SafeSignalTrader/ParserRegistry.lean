import SafeSignalTrader.DomainModels
import SafeSignalTrader.PythonText

/-!
# Parser plug-ins

The `SignalParser` contract of `parsers/interfaces.py` and the registry of
`parsers/registry.py`.  A parser is a plug-in: each of its three calls may
return anything or raise.  The objects that plug-ins hand over as signals
range over an arbitrary type; `None` is none of them.
-/

namespace SafeSignalTrader

/-- Reading an attribute an object does not have. -/
def missingAttribute (typeName fieldName : String) : PyException :=
  .other "AttributeError"
    ("'" ++ typeName ++ "' object has no attribute '" ++ fieldName ++ "'")

/--
A parser plug-in; each call returns a value or raises.  What `can_parse`
returns is given by its truth test, which may raise as well, and what the
other two return is an object or `None`.
-/
structure SignalParser (Object : Type) where
  parserId : PyString
  parserVersion : PyString
  canParse : (text : PyString) → Except PyException (Except PyException Bool)
  parse :
    (text : PyString) → (sourceId : String) → (messageId : Option String) →
      (rawHash : Option PyString) → Except PyException (Option Object)
  validate : Object → Except PyException (Option Object)

/-- Parsers by versioned key and by bare id. -/
structure ParserRegistry (Object : Type) where
  parsers : OrderedDict PyString (SignalParser Object)

namespace ParserRegistry

variable {Object : Type}

/-- `ParserRegistry()`. -/
def empty : ParserRegistry Object :=
  ⟨.empty⟩

/-- The key of a parser id at a version. -/
def versionedKey (parserId version : PyString) : PyString :=
  parserId ++ "@" ++ version

/-- File a parser under its versioned key and, latest wins, its bare id. -/
def register
    (registry : ParserRegistry Object)
    (parser : SignalParser Object) : ParserRegistry Object :=
  ⟨(registry.parsers.set
      (versionedKey parser.parserId parser.parserVersion) parser).set
        parser.parserId parser⟩

/-- The parser of an id, at a version unless it is missing or empty. -/
def get
    (registry : ParserRegistry Object)
    (parserId : PyString)
    (version : Option PyString := none) : Option (SignalParser Object) :=
  match version with
  | some version =>
      if version ≠ "" then
        registry.parsers.get? (versionedKey parserId version)
      else
        registry.parsers.get? parserId
  | none => registry.parsers.get? parserId

/-- The ids of the stored parsers, sorted. -/
def listIds (registry : ParserRegistry Object) : List PyString :=
  PythonText.sortedSet (registry.parsers.values.map SignalParser.parserId)

end ParserRegistry

end SafeSignalTrader
