/-
SqlAtlas.Log.Report — the events that the outcomes of the library are logged
as.

Outcomes that a caller cannot see otherwise are logged at the debug level:
override entries that were passed over, types that no rule maps, names that
stand for nothing, pinned types that were ignored. A rejected expression is
logged as a warning which tells its kind, its category and its length, and
nothing of its text.
-/
import SqlAtlas.Gate
import SqlAtlas.Log.Event
import SqlAtlas.NativeType.Name
import SqlAtlas.TypeMap.Resolve
import SqlAtlas.TypeMap.Reverse

namespace SqlAtlas.Log

/-! ## 1. Overrides -/

/-- The event of an override entry that pins nothing. -/
def ofEntry? : OverrideEntry → Option Event
  | .pinned _ _ => none
  | .noColon entry =>
    some ⟨.debug, .overrides, "override entry without ':' skipped", [("entry", .str entry)]⟩
  | .emptyPart entry =>
    some ⟨.debug, .overrides, "override entry with empty part skipped", [("entry", .str entry)]⟩
  | .unknownDialect spelling =>
    some ⟨.debug, .overrides, "unknown override provider skipped", [("provider", .str spelling)]⟩

/-- The events of reading overrides, in the order of the entries. -/
def ofOverrides (text : List Char) : List Event := (Overrides.entries text).filterMap ofEntry?

/-! ## 2. Type maps -/

/-- The event of a native type that no rule maps. -/
def unmapped (dialect : Dialect) (t : NativeType) : Event :=
  ⟨.debug, .typeMap, "no rule maps native type",
    [("dialect", .str dialect.name), ("native_type", .str t.name)]⟩

/-- The event of a pinned type that cannot be used. -/
def ignoredPin (dialect : Dialect) : Event :=
  ⟨.debug, .typeMap, "unsafe type override ignored", [("dialect", .str dialect.name)]⟩

/-- The events of resolving a descriptor. -/
def ofResolve (dialect : Dialect) (d : NativeDescriptor) (overrides : Overrides) : List Event :=
  (if TypeMap.ignoresPin dialect overrides then [ignoredPin dialect] else []) ++
    if TypeMap.resolve dialect d overrides = none then [unmapped dialect d.type] else []

/-- The event of a SQL type name that is refused with the given message. -/
def refused (dialect : Dialect) (text : List Char) (message : String) : Event :=
  ⟨.debug, .typeMap, message,
    [("dialect", .str dialect.name), ("sql_type", .str (String.ofList text))]⟩

/-- The events of a refusal. Too many dimensions are refused in silence. -/
def ofRefusal (dialect : Dialect) (text : List Char) : TypeMap.Refusal → List Event
  | .malformed => [refused dialect text "malformed sql type name"]
  | .noArrays => [refused dialect text "dialect has no array types"]
  | .unknown => [refused dialect text "no native type for sql type"]
  | .tooManyDimensions => []

/-- The event of a native type that was mapped by command. -/
def mappedNative (dialect : Dialect) (t : SqlType) : Event :=
  ⟨.info, .command, "native type mapped",
    [("dialect", .str dialect.name), ("sql_type", .str t.name)]⟩

/-- The event of a SQL type name that was mapped by command. -/
def mappedSql (dialect : Dialect) (text : List Char) : Event :=
  ⟨.info, .command, "sql type mapped",
    [("dialect", .str dialect.name), ("sql_type", .str (String.ofList text))]⟩

/-! ## 3. Expressions -/

/-- The event of a rejected expression of the given length. -/
def ofRejection (r : Gate.Rejection) (length : Nat) : Event :=
  ⟨.warn, .gate, "expression rejected",
    [("kind", .str r.kind.label), ("category", .str r.cause.category), ("length", .nat length)]⟩

/-- The events of checking an expression. -/
def ofCheck (gate : Gate) (kind : Gate.Kind) (text : List Char) : List Event :=
  match gate.check kind text with
  | .ok () => []
  | .error r => [ofRejection r text.length]

end SqlAtlas.Log
