/-
SqlAtlas.Gate — the check that every SQL expression passes before it is
spliced into a definition.

The conditions are asked in a fixed order, and the first that fails is the
cause of the rejection:

1. the text is not blank
2. it is not longer than the limit
3. it has no control characters but tabs and line ends
4. it has no comment
5. a view begins with SELECT
6. nothing but blanks comes behind a semicolon
7. no denied keyword occurs, SELECT among them outside views

The gate never changes a text.
-/
import SqlAtlas.Gate.Options
import SqlAtlas.Gate.Rejection
import SqlAtlas.Text.Ascii

namespace SqlAtlas

open Text (contains isBlank trimStart)

/-- The longest expression that passes, and the rules for keywords in the
order in which they are asked. -/
structure Gate where
  maxLength : Nat
  rules : List Gate.DenyRule
  deriving DecidableEq, Repr

namespace Gate

/-! ## 1. The built-in rules -/

/-- The keywords denied in every expression. -/
def deniedKeywords : List String :=
  ["DROP", "EXEC", "EXECUTE", "UNION", "SHUTDOWN", "WAITFOR", "BACKUP", "RESTORE", "INSERT",
   "UPDATE", "DELETE", "TRUNCATE", "ALTER", "CREATE", "GRANT", "REVOKE", "DECLARE", "DBCC",
   "OPENROWSET", "OPENQUERY", "OPENDATASOURCE", "SP_EXECUTESQL", "SLEEP", "PG_SLEEP",
   "BENCHMARK"]

/-- The beginnings of words denied in every expression. -/
def deniedPrefixes : List String := ["xp_", "sys."]

/-- The built-in rules. -/
def builtIn : List DenyRule :=
  deniedKeywords.map (⟨·, .word⟩) ++ deniedPrefixes.map (⟨·, .wordStart⟩)

/-- The keyword denied outside views. -/
def selectRule : DenyRule := ⟨"SELECT", .word⟩

/-- The gate with the given options. -/
def ofOptions (options : Options) : Except OptionsFault Gate :=
  if options.maxLength = 0 then .error .zeroMaxLength
  else
    match rulesOf options.extraKeywords with
    | .error fault => .error fault
    | .ok extra => .ok ⟨options.maxLength, builtIn ++ extra⟩

/-- The gate without any choices. -/
def standard : Gate := ⟨defaultMaxLength, builtIn⟩

/-! ## 2. The conditions -/

/-- A control character. -/
def isControl (c : Char) : Bool := c.toNat < 0x20 || (0x7F ≤ c.toNat && c.toNat ≤ 0x9F)

/-- A control character that no expression may hold. -/
def isForbiddenControl (c : Char) : Bool :=
  isControl c && c ≠ '\t' && c ≠ '\n' && c ≠ '\r'

/-- Whether a comment begins somewhere in the text. -/
def hasComment (text : List Char) : Bool :=
  contains "--".toList text || contains "/*".toList text

/-- Whether the text begins with the word SELECT, blanks before it or not. -/
def startsWithSelect (text : List Char) : Bool :=
  beginsWith selectRule.keyword.toList (trimStart text) &&
    DenyRule.boundaryBehind selectRule.keyword.length (trimStart text)

/-- Whether something that is not blank comes behind a semicolon. -/
def hasSecondStatement : List Char → Bool
  | [] => false
  | c :: r => (c = ';' && !r.all isBlank) || hasSecondStatement r

/-- The rules that a kind of expression is held to. -/
def rulesFor (gate : Gate) : Kind → List DenyRule
  | .view => gate.rules
  | _ => selectRule :: gate.rules

/-- The keyword of the first rule that a text breaks. -/
def deniedKeyword? (gate : Gate) (kind : Kind) (text : List Char) : Option String :=
  ((gate.rulesFor kind).find? (fun rule => rule.occursIn text)).map DenyRule.keyword

/-! ## 3. The check -/

/-- The first cause to refuse a text. -/
def cause? (gate : Gate) (kind : Kind) (text : List Char) : Option Cause :=
  if text.all isBlank then some .empty
  else if gate.maxLength < text.length then some (.tooLong text.length gate.maxLength)
  else if text.any isForbiddenControl then some .controlCharacters
  else if hasComment text then some .comment
  else if kind = .view && !startsWithSelect text then some .noSelect
  else if hasSecondStatement text then some (.denied ";")
  else (gate.deniedKeyword? kind text).map .denied

/-- Lets an expression pass, or says why not. -/
def check (gate : Gate) (kind : Kind) (text : List Char) : Except Rejection Unit :=
  match gate.cause? kind text with
  | none => .ok ()
  | some cause => .error ⟨kind, cause⟩

end Gate

end SqlAtlas
