/-
SqlAtlas.Command.Action — what a run does once its arguments are read: the
answer it prints, or why there is none, and what it logs on the way.

An action is a function of its arguments and of the options of the gate
alone. Only the checking of expressions needs the gate, so unusable options
stop no other action.
-/
import SqlAtlas.Json.Encode
import SqlAtlas.Log.Report
import SqlAtlas.NativeType.Reader

namespace SqlAtlas.Command

open Json (object str)
open Log (Event)

/-! ## 1. Actions -/

/-- The sizes asked for on the command line. -/
structure Hints where
  length? : Option Length := none
  precision? : Option UInt16 := none
  scale? : Option UInt16 := none
  ascii : Bool := false
  fixed : Bool := false
  deriving DecidableEq, Repr

/-- A type with the sizes that were asked for. A scale counts only beside a
precision. -/
def Hints.describe (h : Hints) (t : NativeType) : NativeDescriptor :=
  let d := ((NativeDescriptor.ofType t).withUnicode !h.ascii).withFixed h.fixed
  let d := (h.length?.map d.withLength).getD d
  match h.precision?, h.scale? with
  | some precision, some scale => d.withPrecisionScale precision scale
  | some precision, none => d.withPrecision precision
  | none, _ => d

/-- What is to be done. -/
inductive Action where
  | map (type : List Char) (dialect : Dialect) (hints : Hints) (overrides? : Option (List Char))
  | reverse (type : List Char) (dialect : Dialect)
  | render (type : List Char)
  | overrides (text : List Char)
  | validate (kind : Gate.Kind) (expression : List Char)
  deriving DecidableEq, Repr

/-! ## 2. Outcomes -/

/-- Why a run has no answer. -/
inductive Failure where
  | core (fault : Fault)
  | rejected (rejection : Gate.Rejection)
  | options (fault : Gate.OptionsFault)
  | unmapped (dialect : Dialect) (typeName : String)
  | configUnreadable (path : String)
  | configInvalid
  | logLevel
  | logFile
  deriving DecidableEq, Repr

/-- The wording of a failure. -/
def Failure.message : Failure → String
  | core fault => s!"core error: {fault.message}"
  | rejected rejection => rejection.message
  | options fault => s!"invalid validator options: {fault.message}"
  | unmapped dialect typeName => s!"no {dialect.name} mapping for '{typeName}'"
  | configUnreadable path => s!"failed to read config {path}"
  | configInvalid => "invalid config"
  | logLevel => "logging error: invalid filter directive"
  | logFile => "io error: log file cannot be opened"

/-- What a run comes to: the events on the way, and the answer. -/
structure Outcome where
  events : List Event
  answer : Except Failure Json

/-! ## 3. The actions -/

/-- The answer of mapping a native type. -/
def mappedAnswer (dialect : Dialect) (t : NativeType) (s : SqlType) : Json :=
  object [("dialect", str dialect.name), ("native_type", str t.name), ("sql_type", s.toJson)]

/-- Maps a native type to SQL. -/
def mapType (type : List Char) (dialect : Dialect) (hints : Hints)
    (overrides? : Option (List Char)) : Outcome :=
  match NativeType.ofName type with
  | .error fault => ⟨[], .error (.core fault)⟩
  | .ok t =>
    let d := hints.describe t
    let text := overrides?.getD []
    let overrides := Overrides.read text
    let noted := Log.ofOverrides text ++ Log.ofResolve dialect d overrides
    match TypeMap.resolve dialect d overrides with
    | none => ⟨noted, .error (.unmapped dialect t.name)⟩
    | some s => ⟨noted ++ [Log.mappedNative dialect s], .ok (mappedAnswer dialect t s)⟩

/-- The answer of mapping a SQL type. -/
def reversedAnswer (dialect : Dialect) (type : List Char) (d : NativeDescriptor) : Json :=
  object
    [("dialect", str dialect.name), ("sql_type", str (String.ofList type)),
     ("native_type", str d.type.name), ("descriptor", d.toJson)]

/-- Maps a SQL type to a native one. -/
def reverseType (type : List Char) (dialect : Dialect) : Outcome :=
  match TypeMap.reverse dialect type with
  | .error refusal =>
    ⟨Log.ofRefusal dialect type refusal, .error (.unmapped dialect (String.ofList type))⟩
  | .ok d => ⟨[Log.mappedSql dialect type], .ok (reversedAnswer dialect type d)⟩

/-- Renders the canonical name of a native type. -/
def renderType (type : List Char) : Outcome :=
  match NativeType.ofName type with
  | .error fault => ⟨[], .error (.core fault)⟩
  | .ok t => ⟨[], .ok (object [("canonical_name", str t.name)])⟩

/-- Shows the types that overrides pin. -/
def showOverrides (text : List Char) : Outcome :=
  ⟨Log.ofOverrides text, .ok (Overrides.read text).toJson⟩

/-- Checks an expression with a gate. -/
def checkExpression (gate : Gate) (kind : Gate.Kind) (expression : List Char) : Outcome :=
  ⟨Log.ofCheck gate kind expression,
    match gate.check kind expression with
    | .error rejection => .error (.rejected rejection)
    | .ok () => .ok (object [("kind", str kind.name), ("valid", .bool true)])⟩

/-- Checks an expression with the gate that options make. -/
def validate (options : Gate.Options) (kind : Gate.Kind) (expression : List Char) : Outcome :=
  match Gate.ofOptions options with
  | .error fault => ⟨[], .error (.options fault)⟩
  | .ok gate => checkExpression gate kind expression

/-- Does what is to be done. -/
def Action.perform (options : Gate.Options) : Action → Outcome
  | map type dialect hints overrides? => mapType type dialect hints overrides?
  | reverse type dialect => reverseType type dialect
  | render type => renderType type
  | overrides text => showOverrides text
  | validate kind expression => Command.validate options kind expression

end SqlAtlas.Command
