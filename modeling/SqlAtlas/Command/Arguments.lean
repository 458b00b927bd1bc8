/-
SqlAtlas.Command.Arguments — reading the arguments of the command line.

Options come before the verb or behind it, places only behind it. Every
argument is judged where it stands: an option that is not known, is given
twice on one side of the verb, or has a value it cannot take ends the
reading, and so does an option that asks for a page. What is missing shows
at the end. A value or a place may not begin with a dash, unless it is a
dash alone; behind two dashes everything is a place.
-/
import SqlAtlas.Command.Action
import SqlAtlas.Command.Verb

namespace SqlAtlas.Command

/-- Why the arguments ask for nothing that could be run: they are misused, or
they ask for a page. -/
inductive Stop where
  | misuse
  | page (p : Page)
  deriving DecidableEq, Repr

/-! ## 1. Words -/

/-- An argument by its form: two dashes alone, an option with the value
attached to it, or anything else. -/
inductive Word where
  | dashes
  | long (name : String) (attached? : Option String)
  | short (letter : Char) (attached? : Option String)
  | plain
  deriving DecidableEq, Repr

/-- What is attached behind an equals sign. -/
def behindEquals : List Char → Option String
  | '=' :: r => some (String.ofList r)
  | _ => none

/-- What is attached behind a letter, with an equals sign or without. -/
def behindLetter : List Char → Option String
  | [] => none
  | '=' :: r => some (String.ofList r)
  | r => some (String.ofList r)

namespace Word

/-- The form of an argument. -/
def ofArgument (arg : String) : Word :=
  match arg.toList with
  | ['-', '-'] => dashes
  | '-' :: '-' :: r =>
    let name := r.takeWhile (· ≠ '=')
    long (String.ofList name) (behindEquals (r.drop name.length))
  | '-' :: c :: r => short c (behindLetter r)
  | _ => plain

/-- What is attached to an option. -/
def attached? : Word → Option String
  | long _ a => a
  | short _ a => a
  | dashes => none
  | plain => none

/-- The rule of the option that a word names. -/
def rule? (rules : List OptionRule) : Word → Option OptionRule
  | long name _ => rules.find? (fun o => o.name = name)
  | short c _ => rules.find? (fun o => o.letter? = some c)
  | dashes => none
  | plain => none

end Word

/-! ## 2. What was given -/

/-- The verb, if it was given, the options before it and behind it, and the
places. -/
structure Given where
  verb? : Option Verb := none
  before : List (String × String) := []
  options : List (String × String) := []
  places : List String := []
  deriving DecidableEq, Repr

namespace Given

/-- The rules of the options that may come next. -/
def rules (g : Given) : List OptionRule := (g.verb?.map Verb.options).getD generalOptions

/-- The value of an option. Behind the verb it counts more than before. -/
def value? (g : Given) (name : String) : Option String :=
  (g.options.lookup name).or (g.before.lookup name)

/-- Whether an option was given. -/
def has (g : Given) (name : String) : Bool := (g.value? name).isSome

/-- Takes an option, unless it was given before on this side of the verb. -/
def addOption (g : Given) (name text : String) : Except Stop Given :=
  if (g.options.lookup name).isSome then .error .misuse
  else .ok { g with options := g.options ++ [(name, text)] }

/-- Takes an option with its value. -/
def addValue (g : Given) (o : OptionRule) (v : OptionValue) (text : String) :
    Except Stop Given :=
  if v.accepts text then g.addOption o.name text else .error .misuse

/-- Takes the verb. -/
def setVerb (g : Given) (text : String) : Except Stop Given :=
  match Verb.ofName? text with
  | some v => .ok { verb? := some v, before := g.options }
  | none => .error .misuse

/-- Takes a place of a verb, if there is one left. -/
def addPlace (g : Given) (v : Verb) (text : String) : Except Stop Given :=
  match v.places[g.places.length]? with
  | some p =>
    if p.accepts text then .ok { g with places := g.places ++ [text] } else .error .misuse
  | none => .error .misuse

/-- Takes what is no option: the verb first, then places. -/
def addPlain (g : Given) (text : String) : Except Stop Given :=
  match g.verb? with
  | none => g.setVerb text
  | some v => g.addPlace v text

/-- Takes places behind two dashes. There is no verb to be found there. -/
def addPlaces (g : Given) (texts : List String) : Except Stop Given :=
  match g.verb? with
  | none => .error .misuse
  | some v => texts.foldlM (fun g text => g.addPlace v text) g

end Given

/-! ## 3. Scanning -/

/-- The page that is asked for by its verb. -/
def pageFor : List String → Stop
  | [] => .page .overview
  | [name] => ((Verb.ofName? name).map (fun v => Stop.page (.verb v))).getD .misuse
  | _ => .misuse

/-- Takes all arguments, one after the other. -/
def scan : List String → Given → Except Stop Given
  | [], g => .ok g
  | arg :: rest, g =>
    match Word.ofArgument arg with
    | .dashes => g.addPlaces rest
    | .plain =>
      if g.verb? = none ∧ arg = "help" then .error (pageFor rest)
      else do scan rest (← g.addPlain arg)
    | word =>
      match word.rule? g.rules with
      | none => .error .misuse
      | some o =>
        match o.purpose, word.attached?, rest with
        | .page p, none, _ => .error (.page p)
        | .flag, none, rest => do scan rest (← g.addOption o.name "")
        | .value v, some text, rest => do scan rest (← g.addValue o v text)
        | .value v, none, text :: rest =>
          if Word.ofArgument text = .plain then do scan rest (← g.addValue o v text)
          else .error .misuse
        | _, _, _ => .error .misuse

/-! ## 4. Invocations -/

/-- What the arguments ask for: an action, the file with the configuration,
and the file for the log. -/
structure Invocation where
  config? : Option String
  log? : Option String
  action : Action
  deriving DecidableEq, Repr

namespace Given

/-- The dialect that was given. -/
def dialect? (g : Given) : Option Dialect :=
  (g.value? "dialect").bind (fun text => Dialect.ofAlias? text.toList)

/-- A precision or scale that was given. -/
def small? (g : Given) (name : String) : Option UInt16 :=
  (g.value? name).bind (fun text => readSmall text.toList)

/-- The sizes that were given. -/
def hints (g : Given) : Hints where
  length? := (g.value? "length").bind (fun text => Length.read text.toList)
  precision? := g.small? "precision"
  scale? := g.small? "scale"
  ascii := g.has "ascii"
  fixed := g.has "fixed"

/-- Whether every option that another one needs was given. -/
def isComplete (g : Given) : Bool := !g.has "scale" || g.has "precision"

/-- The action that was given, unless something is missing. -/
def action? (g : Given) : Option Action :=
  match g.verb?, g.places with
  | some .map, [type] =>
    if g.isComplete then
      g.dialect?.map fun dialect =>
        .map type.toList dialect g.hints ((g.value? "overrides").map String.toList)
    else none
  | some .reverse, [type] => g.dialect?.map (.reverse type.toList)
  | some .render, [type] => some (.render type.toList)
  | some .overrides, [text] => some (.overrides text.toList)
  | some .validate, [kind, expression] =>
    (Gate.Kind.ofName? kind).map (.validate · expression.toList)
  | _, _ => none

end Given

/-- Reads the arguments of the command line. -/
def Invocation.read (args : List String) : Except Stop Invocation := do
  let g ← scan args {}
  match g.action? with
  | some action => .ok ⟨g.value? "config", g.value? "log-file", action⟩
  | none => .error .misuse

end SqlAtlas.Command
