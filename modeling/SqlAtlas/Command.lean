/-
SqlAtlas.Command — one run of the program, from its arguments to what it
prints and logs.

A run goes through four steps, and each can end it: the arguments are read,
then the configuration, then the directives for the log, and only then
something is done. What files hold is given as a function, so that a run is
determined by its inputs.
-/
import SqlAtlas.Command.Arguments
import SqlAtlas.Command.Help
import SqlAtlas.Config
import SqlAtlas.Log.Filter
import SqlAtlas.Toml.Reader

namespace SqlAtlas.Command

open Log (Event Filter)

/-! ## 1. Settings -/

/-- What is around a run: what the file of a path holds, if it can be read,
and the directives that take precedence over configured ones. -/
structure Surroundings where
  contents : String → Option (List Char)
  directives? : Option (List Char) := none

/-- The configuration of a file. Without a file everything has its default. -/
def configuration (around : Surroundings) : Option String → Except Failure Config
  | none => .ok {}
  | some path =>
    match around.contents path with
    | none => .error (.configUnreadable path)
    | some text =>
      match (Toml.read text).bind Config.ofSetting? with
      | some config => .ok config
      | none => .error .configInvalid

/-- The filter of a run: the directives from outside if they can be read,
otherwise the configured ones. -/
def filterOf (around : Surroundings) (config : Config) : Except Failure Filter :=
  match (around.directives?.bind Filter.read).or (Filter.read config.logging.level.toList) with
  | some filter => .ok filter
  | none => .error .logLevel

/-- What holds for the whole of a run. -/
structure Session where
  config : Config
  filter : Filter
  deriving DecidableEq, Repr

/-- Sets up a run. -/
def Session.start (around : Surroundings) (config? : Option String) : Except Failure Session := do
  let config ← configuration around config?
  let filter ← filterOf around config
  return ⟨config, filter⟩

/-- Does what is to be done, and keeps the events that the filter admits. -/
def Session.perform (s : Session) (action : Action) : Outcome :=
  let outcome := action.perform s.config.validator
  { outcome with events := outcome.events.filter s.filter.admits }

/-! ## 2. Runs -/

/-- How a run ends. -/
inductive Ending where
  | printed (text : String)
  | failed (failure : Failure)
  | misused
  deriving DecidableEq, Repr

namespace Ending

/-- The ending of a run whose arguments ask for nothing that could be run. -/
def ofStop : Stop → Ending
  | .misuse => misused
  | .page p => printed p.text

/-- The ending of a run with this answer. -/
def ofAnswer : Except Failure Json → Ending
  | .ok answer => printed (answer.pretty ++ "\n")
  | .error failure => failed failure

/-- The code that the system is given. -/
def exitCode : Ending → Nat
  | printed _ => 0
  | failed _ => 1
  | misused => 2

end Ending

/-- A run: the events that it logs, and its end. -/
structure Run where
  events : List Event
  ending : Ending

/-- The run of an invocation. -/
def Invocation.run (around : Surroundings) (i : Invocation) : Run :=
  match Session.start around i.config? with
  | .error failure => ⟨[], .failed failure⟩
  | .ok session =>
    let outcome := session.perform i.action
    ⟨outcome.events, .ofAnswer outcome.answer⟩

/-- The run of arguments. -/
def run (around : Surroundings) (args : List String) : Run :=
  match Invocation.read args with
  | .error stop => ⟨[], .ofStop stop⟩
  | .ok i => i.run around

/-- The events of runs one after the other. -/
def logOf (around : Surroundings) (runs : List (List String)) : List Event :=
  runs.flatMap (fun args => (run around args).events)

end SqlAtlas.Command
