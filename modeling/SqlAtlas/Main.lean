/-
SqlAtlas.Main — the program: it gives a run what the run needs from outside,
and writes what the run comes to.

Answers and pages go to the standard output, failures to the standard error
output. Events go to the file that was asked for, one JSON object with its
time on each line, and to the standard error output otherwise.
-/
import SqlAtlas.Command
import Std.Time.Format

namespace SqlAtlas.Command

open Log (Event)

/-- The variable of the environment that holds directives. -/
def directivesVariable : String := "RUST_LOG"

/-- What the file of a path holds, if it can be read. -/
def readContents (path : String) : IO (Option (List Char)) := do
  try
    let text ← IO.FS.readFile path
    return some text.toList
  catch _ => return none

/-- What is around the run of an invocation. -/
def surroundings (i : Invocation) : IO Surroundings := do
  let contents? ←
    match i.config? with
    | some path => readContents path
    | none => pure none
  let directives? ← IO.getEnv directivesVariable
  return { contents := fun _ => contents?, directives? := directives?.map String.toList }

/-- Where events go, and in which form. -/
structure Sink where
  stream : IO.FS.Stream
  format : LogFormat

/-- Opens the file for the log, if one was asked for. -/
def Sink.ofLog (session : Session) (log? : Option String) : IO (Except Failure Sink) := do
  match log? with
  | none => return .ok ⟨← IO.getStderr, session.config.logging.format⟩
  | some path =>
    try
      let handle ← IO.FS.Handle.mk path .append
      return .ok ⟨.ofHandle handle, .json⟩
    catch _ => return .error .logFile

/-- The time at which this is asked. -/
def timeNow : IO String := do
  let time ← Std.Time.Timestamp.now
  return (Std.Time.DateTime.ofTimestamp time Std.Time.TimeZone.ZoneRules.UTC).toISO8601String

/-- A field of an event for a reader. -/
def fieldText (field : String × Json) : String := s!"{field.1}={field.2.compact}"

/-- The line of an event. -/
def eventLine (format : LogFormat) (time : String) (e : Event) : String :=
  match format with
  | .json => (Json.obj (("timestamp", .str time) :: e.members)).compact
  | .pretty =>
    String.intercalate " " (time :: e.level.label :: e.message :: e.fields.map fieldText)

/-- Writes events. -/
def Sink.write (sink : Sink) (events : List Event) : IO Unit := do
  for e in events do
    sink.stream.putStrLn (eventLine sink.format (← timeNow) e)

/-- Writes how a run ends. -/
def finish (e : Ending) : IO UInt32 := do
  match e with
  | .printed text => IO.print text
  | .failed failure => IO.eprintln s!"error: {failure.message}"
  | .misused => IO.eprint s!"error: unusable arguments\n\n{Page.overview.text}"
  return e.exitCode.toUInt32

/-- Runs a session whose log is open. -/
def runIn (session : Session) (sink : Sink) (action : Action) : IO UInt32 := do
  let outcome := session.perform action
  sink.write outcome.events
  finish (.ofAnswer outcome.answer)

/-- Runs an invocation. -/
def runInvocation (i : Invocation) : IO UInt32 := do
  match Session.start (← surroundings i) i.config? with
  | .error failure => finish (.failed failure)
  | .ok session =>
    match ← Sink.ofLog session i.log? with
    | .error failure => finish (.failed failure)
    | .ok sink => runIn session sink i.action

end SqlAtlas.Command

/-- Runs the program. -/
def main (args : List String) : IO UInt32 :=
  match SqlAtlas.Command.Invocation.read args with
  | .error stop => SqlAtlas.Command.finish (.ofStop stop)
  | .ok i => SqlAtlas.Command.runInvocation i
