/-
SqlAtlas.Command.Verb — what can be asked for on the command line: the
verbs, their options, and the arguments that have their place.

The tables below are the whole command line. Arguments are read by them and
the help pages are made from them, so that the two cannot disagree.
-/
import SqlAtlas.Dialect
import SqlAtlas.Gate.Rejection
import SqlAtlas.Length

namespace SqlAtlas.Command

open Text (readDigits readUnsigned)

/-! ## 1. Verbs and pages -/

/-- What the program can do. -/
inductive Verb where
  | map
  | reverse
  | render
  | overrides
  | validate
  deriving DecidableEq, Repr

/-- What the program can tell about itself: its version, what it can do, and
how one verb is used. -/
inductive Page where
  | version
  | overview
  | verb (v : Verb)
  deriving DecidableEq, Repr

namespace Verb

/-- Every verb, in the order of the overview. -/
def all : List Verb := [map, reverse, render, overrides, validate]

/-- The name of a verb. -/
def name : Verb → String
  | map => "map"
  | reverse => "reverse"
  | render => "render"
  | overrides => "overrides"
  | validate => "validate"

/-- The verb of exactly this name. -/
def ofName? (text : String) : Option Verb := all.find? (fun v => v.name = text)

/-- What a verb does. -/
def about : Verb → String
  | map => "Map a native type name (e.g. `Nullable<Decimal>`) to SQL"
  | reverse => "Map a SQL type name back to a native type"
  | render => "Print the canonical form of a native type name"
  | overrides => "Parse a provider override string"
  | validate => "Check a raw SQL expression"

end Verb

/-! ## 2. Values -/

/-- A number that fits into 16 bits: a sign or none, then ASCII digits. Only
zero may have a minus. -/
def readSmall (text : List Char) : Option UInt16 :=
  match text with
  | '-' :: r => if readDigits r = some 0 then some 0 else none
  | s => (readUnsigned (UInt16.size - 1) s).map UInt16.ofNat

/-- A name of a file. -/
def isPath (text : String) : Bool := !text.isEmpty

/-- The name of a dialect. -/
def isDialect (text : String) : Bool := (Dialect.ofAlias? text.toList).isSome

/-- A length. -/
def isLength (text : String) : Bool := (Length.read text.toList).isSome

/-- A precision or a scale. -/
def isSmall (text : String) : Bool := (readSmall text.toList).isSome

/-! ## 3. Options -/

/-- The value that an option takes: its name in help pages, and which texts
it may be. -/
structure OptionValue where
  name : String
  accepts : String → Bool := fun _ => true

/-- What an option is for: to be set, to take a value, or to ask for a page
instead of anything else. -/
inductive OptionUse where
  | flag
  | value (v : OptionValue)
  | page (p : Page)

/-- An option: its name behind two dashes, its letter behind one if it has a
letter, what it is for, what help pages say about it, and whether a verb
needs it. -/
structure OptionRule where
  name : String
  letter? : Option Char := none
  purpose : OptionUse
  about : String := ""
  required : Bool := false

/-- An option that is set or not. -/
def flagOption (name about : String) : OptionRule where
  name := name
  purpose := .flag
  about := about

/-- An option with a value. -/
def valueOption (name about : String) (v : OptionValue) : OptionRule where
  name := name
  purpose := .value v
  about := about

/-- The file with the configuration. -/
def configOption : OptionRule :=
  valueOption "config" "TOML config with [validator] and [logging] sections" ⟨"PATH", isPath⟩

/-- The file to which events are appended. -/
def logOption : OptionRule :=
  valueOption "log-file" "Append JSON log lines to this file instead of stderr" ⟨"PATH", isPath⟩

/-- The dialect. -/
def dialectOption (about : String) : OptionRule where
  name := "dialect"
  letter? := some 'd'
  purpose := .value ⟨"DIALECT", isDialect⟩
  about := about
  required := true

/-- The option that asks for a help page. -/
def helpOption (page : Page) : OptionRule where
  name := "help"
  letter? := some 'h'
  purpose := .page page
  about := "Print help"

/-- The option that asks for the version. -/
def versionOption : OptionRule where
  name := "version"
  letter? := some 'V'
  purpose := .page .version
  about := "Print version"

/-- The options before the verb, in the order of the overview. -/
def generalOptions : List OptionRule :=
  [configOption, logOption, helpOption .overview, versionOption]

/-- The options behind a verb, in the order of its page. -/
def Verb.options : Verb → List OptionRule
  | map =>
    [configOption,
     dialectOption "Target dialect (name or alias such as `pg`, `mssql`)",
     valueOption "length" "Length hint: a positive number or `max`" ⟨"LENGTH", isLength⟩,
     logOption,
     valueOption "precision" "" ⟨"PRECISION", isSmall⟩,
     valueOption "scale" "" ⟨"SCALE", isSmall⟩,
     flagOption "ascii" "Prefer non-unicode text types",
     flagOption "fixed" "Prefer fixed-length text and binary types",
     valueOption "overrides" "Provider overrides, e.g. `\x7bmysql:json,pg:jsonb\x7d`"
       ⟨"OVERRIDES", fun _ => true⟩,
     helpOption (.verb map)]
  | reverse => [configOption, dialectOption "", logOption, helpOption (.verb reverse)]
  | render => [configOption, logOption, helpOption (.verb render)]
  | overrides => [configOption, logOption, helpOption (.verb overrides)]
  | validate => [configOption, logOption, helpOption (.verb validate)]

/-! ## 4. Arguments with a place -/

/-- An argument that is known by its place: its name in help pages, and which
texts it may be. If there are only a few they are listed. -/
structure PlaceRule where
  name : String
  choices : List String := []

/-- Whether an argument may stand in a place. -/
def PlaceRule.accepts (p : PlaceRule) (text : String) : Bool :=
  p.choices.isEmpty || p.choices.contains text

/-- The places behind a verb. -/
def Verb.places : Verb → List PlaceRule
  | map => [⟨"NATIVE_TYPE", []⟩]
  | reverse => [⟨"SQL_TYPE", []⟩]
  | render => [⟨"NATIVE_TYPE", []⟩]
  | overrides => [⟨"OVERRIDES", []⟩]
  | validate => [⟨"KIND", Gate.Kind.all.map Gate.Kind.name⟩, ⟨"EXPRESSION", []⟩]

end SqlAtlas.Command
