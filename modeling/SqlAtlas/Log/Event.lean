/-
SqlAtlas.Log.Event — what is logged: events with a level, the part of the
program that they come from, a message, and named fields.

The level of an event says how much it matters, errors most. A threshold
lets through the levels that matter at least as much as it asks for; the
lowest threshold lets nothing through.
-/
import SqlAtlas.Json

namespace SqlAtlas.Log

/-- How much an event matters, in falling order. -/
inductive Level where
  | error
  | warn
  | info
  | debug
  | trace
  deriving DecidableEq, Repr

namespace Level

/-- Every level, in falling order. -/
def all : List Level := [error, warn, info, debug, trace]

/-- The number of levels that matter at least as much. -/
def rank : Level → Nat
  | error => 1
  | warn => 2
  | info => 3
  | debug => 4
  | trace => 5

/-- The name of a level in directives. -/
def name : Level → String
  | error => "error"
  | warn => "warn"
  | info => "info"
  | debug => "debug"
  | trace => "trace"

/-- The name of a level in the log. -/
def label : Level → String
  | error => "ERROR"
  | warn => "WARN"
  | info => "INFO"
  | debug => "DEBUG"
  | trace => "TRACE"

end Level

/-- The part of the program that an event comes from. -/
inductive Origin where
  | overrides
  | typeMap
  | gate
  | command
  deriving DecidableEq, Repr

/-- The name under which the log and its directives know a part. -/
def Origin.target : Origin → String
  | overrides => "sqlbridge_core::overrides"
  | typeMap => "sqlbridge_typemap::registry"
  | gate => "sqlbridge_guard::validator"
  | command => "sqlbridge::commands"

/-- One event. -/
structure Event where
  level : Level
  origin : Origin
  message : String
  fields : List (String × Json)
  deriving Repr

/-- The fields of an event, its message among them. -/
def Event.allFields (e : Event) : List (String × Json) :=
  ("message", .str e.message) :: e.fields

/-- The members that an event has in the log, apart from its time. -/
def Event.members (e : Event) : List (String × Json) :=
  [("level", .str e.level.label),
   ("fields", .obj e.allFields),
   ("target", .str e.origin.target)]

/-- An event as an object, without its time. -/
def Event.toJson (e : Event) : Json := .object e.members

end SqlAtlas.Log
