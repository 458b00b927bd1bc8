/-
SqlAtlas.Command.Help — the pages on which the program tells about itself.

A page lists the verbs, or the places and options of one verb, in two
columns. The second column begins two blanks behind the widest entry of the
first.
-/
import SqlAtlas.Command.Verb

namespace SqlAtlas.Command

/-- The name under which the program is called. -/
def programName : String := "sqlbridge"

/-- The version of the program. -/
def programVersion : String := "0.1.0"

/-- What the program is for. -/
def programAbout : String := "SQL dialect type mapping and expression checks"

/-! ## 1. Columns -/

/-- A text with blanks behind it up to a width. -/
def padded (width : Nat) (text : String) : String :=
  text ++ String.ofList (List.replicate (width - text.length) ' ')

/-- Lines with two columns. -/
def columns (rows : List (String × String)) : List String :=
  let width := (rows.map (fun row => row.1.length)).foldl max 0
  rows.map (fun row => "  " ++ padded width row.1 ++ "  " ++ row.2)

/-- A list of rows under a title, if there are rows. -/
def titled (title : String) (rows : List (String × String)) : List String :=
  if rows.isEmpty then [] else "" :: title :: columns rows

/-! ## 2. Entries -/

/-- The value of an option as it is shown. -/
def OptionUse.shown : OptionUse → String
  | value v => s!" <{v.name}>"
  | _ => ""

/-- An option as it is listed. -/
def OptionRule.row (o : OptionRule) : String × String :=
  let letter := match o.letter? with
    | some c => s!"-{c}, "
    | none => "    "
  (s!"{letter}--{o.name}{o.purpose.shown}", o.about)

/-- An argument with a place as it is listed. -/
def PlaceRule.row (p : PlaceRule) : String × String :=
  let choices := String.intercalate ", " p.choices
  (s!"<{p.name}>", if p.choices.isEmpty then "" else s!"[possible values: {choices}]")

/-- How a verb is called. -/
def Verb.usage (v : Verb) : String :=
  let required := v.options.filter OptionRule.required
  String.intercalate " "
    ([programName, v.name, "[OPTIONS]"] ++
      required.map (fun o => s!"--{o.name}{o.purpose.shown}") ++
      v.places.map (fun p => s!"<{p.name}>"))

/-- The row of the overview that names the pages themselves. -/
def helpRow : String × String :=
  ("help", "Print this message or the help of the given subcommand(s)")

/-! ## 3. Pages -/

/-- The lines of a page. -/
def Page.lines : Page → List String
  | version => [s!"{programName} {programVersion}"]
  | overview =>
    [programAbout, "", s!"Usage: {programName} [OPTIONS] <COMMAND>"] ++
      titled "Commands:" (Verb.all.map (fun v => (v.name, v.about)) ++ [helpRow]) ++
      titled "Options:" (generalOptions.map OptionRule.row)
  | verb v =>
    [v.about, "", s!"Usage: {v.usage}"] ++ titled "Arguments:" (v.places.map PlaceRule.row) ++
      titled "Options:" (v.options.map OptionRule.row)

/-- A page as it is printed. -/
def Page.text (p : Page) : String := String.join (p.lines.map (· ++ "\n"))

end SqlAtlas.Command
