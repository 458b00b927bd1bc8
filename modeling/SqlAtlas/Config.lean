/-
SqlAtlas.Config — what a configuration chooses: the options of the gate and
the logging.

Both sections and all their keys may be left out. A key that is not known,
or a value of the wrong type, makes the whole configuration unusable.
-/
import SqlAtlas.Config.Setting
import SqlAtlas.Gate.Options

namespace SqlAtlas

open Config (Setting)

/-- The form in which events are written when they do not go to a file. -/
inductive LogFormat where
  | pretty
  | json
  deriving DecidableEq, Repr

/-- The form of exactly this name. -/
def LogFormat.ofName? : String → Option LogFormat
  | "pretty" => some pretty
  | "json" => some json
  | _ => none

/-- What is logged, and how. -/
structure Logging where
  level : String := "warn"
  format : LogFormat := .pretty
  deriving DecidableEq, Repr

/-- A configuration. -/
structure Config where
  validator : Gate.Options := {}
  logging : Logging := {}
  deriving DecidableEq, Repr

/-- The options of the gate. -/
def Gate.Options.ofSetting? (s : Setting) : Option Gate.Options := do
  let values ← s.section? ["max_length", "extra_denied_keywords"]
  let maxLength ← Setting.valueOr defaultMaxLength Setting.natural? (values[0]?.join)
  let extraKeywords ← Setting.valueOr [] Setting.texts? (values[1]?.join)
  return { maxLength, extraKeywords }

/-- The logging section. -/
def Logging.ofSetting? (s : Setting) : Option Logging := do
  let values ← s.section? ["level", "format"]
  let level ← Setting.valueOr "warn" Setting.text? (values[0]?.join)
  let format ← Setting.valueOr .pretty (fun s => s.choice?.bind LogFormat.ofName?) (values[1]?.join)
  return { level, format }

/-- The whole configuration. -/
def Config.ofSetting? (s : Setting) : Option Config := do
  let values ← s.section? ["validator", "logging"]
  let validator ← Setting.valueOr {} Gate.Options.ofSetting? (values[0]?.join)
  let logging ← Setting.valueOr {} Logging.ofSetting? (values[1]?.join)
  return { validator, logging }

end SqlAtlas
