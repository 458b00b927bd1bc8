/-
SqlAtlas.Log.Directive — one directive of a log filter: how it is written,
and which events it covers.

A directive is a threshold for everything (`warn`), a target of which
everything is let through (`name`), or a target with a threshold
(`name=debug`). A target covers all targets that begin with it. Brackets
behind it, as in `name[span{field=pattern}]=debug`, ask in addition for a span,
for a field, or for both.

Blanks count as part of what they touch: `warn` with a blank behind it is a
target, not a threshold. Only behind brackets they count for nothing.
-/
import SqlAtlas.Log.Event
import SqlAtlas.Text.Ascii
import SqlAtlas.Text.Blank
import SqlAtlas.Text.WordChar

namespace SqlAtlas.Log

open Text (isAlphanumeric isBlank pieces readUnsigned sameIgnoringCase trimStart)

/-! ## 1. Thresholds -/

/-- The spellings of the thresholds, in rising order. -/
def thresholdNames : List String := "off" :: Level.all.map Level.name

/-- The threshold that a text names, by number or by word in any letter
case. -/
def threshold? (text : List Char) : Option Nat :=
  (readUnsigned Level.trace.rank text).or
    (thresholdNames.findIdx? (fun n => sameIgnoringCase n.toList text))

/-! ## 2. Directives -/

/-- A field that is asked for, and what its value has to look like. -/
structure FieldTest where
  name : List Char
  pattern? : Option (List Char)
  deriving DecidableEq, Repr

/-- What brackets ask for. -/
structure Brackets where
  span? : Option (List Char)
  field? : Option FieldTest
  deriving DecidableEq, Repr

/-- Brackets that ask for nothing. -/
def Brackets.none : Brackets := ⟨.none, .none⟩

/-- A threshold for the targets that begin with `target`, as far as the
brackets allow. Events whose rank is above the threshold are held back. -/
structure Directive where
  target : List Char
  brackets : Brackets
  threshold : Nat
  deriving DecidableEq, Repr

/-! ## 3. Reading -/

/-- Reads the inside of braces: a field name, and a pattern behind an equals
sign. -/
def FieldTest.read (text : List Char) : FieldTest :=
  match pieces (· = '=') text with
  | name :: pattern :: _ => ⟨name, some pattern⟩
  | _ => ⟨text, none⟩

/-- Reads brackets from behind the opening one, and gives what follows them.
Braces may not be empty. A span is asked for by brackets without braces, and
by a name in front of them. -/
def Brackets.read (text : List Char) : Option (Brackets × List Char) :=
  let span := text.takeWhile (fun c => c != ']' && c != '\x7b')
  match text.drop span.length with
  | ']' :: rest => some (⟨some span, .none⟩, rest)
  | '\x7b' :: inside =>
    let field := inside.takeWhile (· != '\x7d')
    match inside.drop field.length with
    | '\x7d' :: ']' :: rest =>
      if field.isEmpty then .none
      else some (⟨if span.isEmpty then .none else some span, some (.read field)⟩, rest)
    | _ => .none
  | _ => .none

namespace Directive

/-- Reads what follows a target and its brackets. Without a threshold
everything is let through. A target that begins with a blank has none. -/
def readThreshold (target : List Char) : List Char → Option Nat
  | '=' :: text =>
    if target.head?.any isBlank then none
    else if text.isEmpty then some Level.trace.rank
    else threshold? text
  | rest => if rest.all isBlank then some Level.trace.rank else none

/-- A character that a directive may begin with. -/
def isFirst (c : Char) : Bool :=
  isAlphanumeric c || c = '[' || c = '-' || c = ':' || c = '_'

/-- Reads a directive. -/
def read (text : List Char) : Option Directive :=
  if (trimStart text).head?.any isFirst then
    match threshold? text with
    | some threshold => some ⟨[], .none, threshold⟩
    | none =>
      let target := text.takeWhile (fun c => c != '=' && c != '[')
      match text.drop target.length with
      | '[' :: inside => do
        let (brackets, rest) ← Brackets.read inside
        return ⟨target, brackets, ← readThreshold target rest⟩
      | rest => (readThreshold target rest).map (⟨target, .none, ·⟩)
  else none

end Directive

/-! ## 4. Covered events -/

/-- Whether an event has a field that is asked for. Values are looked at in
spans only, so no event passes a test with a pattern. -/
def FieldTest.passes (t : FieldTest) (e : Event) : Bool :=
  t.pattern?.isNone && e.allFields.any (fun f => f.1.toList == t.name)

/-- Whether a directive covers an event. No event here happens in a span. -/
def Directive.covers (d : Directive) (e : Event) : Bool :=
  d.target.isPrefixOf e.origin.target.toList && d.brackets.span?.isNone &&
    d.brackets.field?.all (·.passes e)

end SqlAtlas.Log
