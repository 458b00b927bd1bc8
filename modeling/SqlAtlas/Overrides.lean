/-
SqlAtlas.Overrides — SQL types that a caller pins for some of the dialects,
written in a small language of its own:

    {mysql:decimal(10,2), sqlserver : decimal(12,4)}

Entries stand between commas or semicolons outside all nesting, and the
braces may be left out. Reading never fails: an entry without a colon, with
an empty part or with an unknown dialect pins nothing and is passed over. Of
two entries for one dialect the later one counts.
-/
import SqlAtlas.Dialect
import SqlAtlas.Text.Nesting

namespace SqlAtlas

open Text (splitOutside trim)

/-! ## 1. Entries -/

/-- What one entry says. -/
inductive OverrideEntry where
  | pinned (dialect : Dialect) (text : String)
  | noColon (entry : String)
  | emptyPart (entry : String)
  | unknownDialect (spelling : String)
  deriving DecidableEq, Repr

namespace OverrideEntry

/-- The parts before and behind the first colon. -/
def splitColon (entry : List Char) : Option (List Char × List Char) :=
  match entry.dropWhile (· ≠ ':') with
  | [] => none
  | _ :: r => some (entry.takeWhile (· ≠ ':'), r)

/-- The entry that pins `text` for the dialect spelled `spelling`, both
trimmed. -/
def ofParts (entry spelling text : List Char) : OverrideEntry :=
  if spelling.isEmpty || text.isEmpty then emptyPart (String.ofList entry)
  else
    match Dialect.ofAlias? spelling with
    | some d => pinned d (String.ofList text)
    | none => unknownDialect (String.ofList spelling)

/-- Reads one entry. -/
def read (entry : List Char) : OverrideEntry :=
  match splitColon entry with
  | none => noColon (String.ofList entry)
  | some (spelling, text) => ofParts entry (trim spelling) (trim text)

/-- What an entry pins. -/
def pin? : OverrideEntry → Option (Dialect × String)
  | pinned d text => some (d, text)
  | _ => none

end OverrideEntry

/-! ## 2. Overrides -/

/-- The pinned types, in the order in which they were written. -/
structure Overrides where
  pins : List (Dialect × String)
  deriving DecidableEq, Repr

namespace Overrides

/-- The text without one opening brace at its start. -/
def dropOpen : List Char → List Char
  | '{' :: r => r
  | s => s

/-- The text without one closing brace at its end. -/
def dropClose (s : List Char) : List Char :=
  match s.reverse with
  | '}' :: r => r.reverse
  | _ => s

/-- The text between the braces that may surround it. -/
def body (text : List Char) : List Char := dropClose (dropOpen (trim text))

/-- The entries of a text, in order. -/
def entries (text : List Char) : List OverrideEntry :=
  (splitOutside [',', ';'] (body text)).map OverrideEntry.read

/-- Reads overrides. -/
def read (text : List Char) : Overrides := ⟨(entries text).filterMap OverrideEntry.pin?⟩

/-- The type pinned last for a dialect. -/
def get? (o : Overrides) (d : Dialect) : Option String :=
  (o.pins.reverse.find? (fun p => p.1 = d)).map Prod.snd

/-- The dialects that have a pinned type, each with its type, in the order of
the dialects. -/
def toList (o : Overrides) : List (Dialect × String) :=
  Dialect.all.filterMap (fun d => (o.get? d).map (fun text => (d, text)))

/-- The number of dialects that have a pinned type. -/
def size (o : Overrides) : Nat := o.toList.length

/-- Whether no dialect has a pinned type. -/
def isEmpty (o : Overrides) : Bool := o.toList.isEmpty

end Overrides

end SqlAtlas
