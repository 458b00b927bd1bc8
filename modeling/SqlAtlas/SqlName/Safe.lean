/-
SqlAtlas.SqlName.Safe — whether a text may be spliced into a column
definition as it stands.

A safe text is short and consists of identifier words, at most one list of
numbers or identifiers, more words, and bracket groups that hold digits
only. No quote, comment, separator or nested list has a place in this shape.
The digits are those of any script.
-/
import SqlAtlas.SqlName.Layout
import SqlAtlas.Text.Ascii
import SqlAtlas.Text.WordChar

namespace SqlAtlas.SqlName

open Text (byteLength isBlank isWordDigit pieces trim words)

/-- The longest text that is spliced, in bytes. -/
def longestSafe : Nat := 128

/-- A character an identifier begins with. -/
def isIdentStart (c : Char) : Bool := c.isAlpha || c = '_'

/-- A character an identifier goes on with. -/
def isIdentChar (c : Char) : Bool := c.isAlphanum || c = '_'

/-- An identifier of ASCII letters, digits and underscores. -/
def isIdentifier : List Char → Bool
  | [] => false
  | c :: r => isIdentStart c && r.all isIdentChar

/-- An identifier that may also hold dots behind its first character. -/
def isTypeWord : List Char → Bool
  | [] => false
  | c :: r => isIdentStart c && r.all (fun d => isIdentChar d || d = '.')

/-- A parameter without its blanks: a number or an identifier. -/
def isSafeParameter (p : List Char) : Bool :=
  (!p.isEmpty && p.all isWordDigit) || isIdentifier p

/-- The words before the parameter list: at least one. -/
def isSafeBase (s : List Char) : Bool := !(words s).isEmpty && (words s).all isTypeWord

/-- The words behind the parameter list, set off from it by a blank. -/
def areSafeModifiers : List Char → Bool
  | [] => true
  | c :: r => isBlank c && (words (c :: r)).all isTypeWord

/-- Whether every part is safe. -/
def Layout.isSafe (l : Layout) : Bool :=
  isSafeBase l.base && areSafeModifiers l.modifiers &&
    l.groups.all (fun g => g.all isWordDigit) &&
    match l.parameters? with
    | none => true
    | some p => (pieces (· = ',') p).all (fun q => isSafeParameter (trim q))

/-- Whether a text, trimmed, is safe to splice. -/
def isSafe (text : List Char) : Bool :=
  byteLength (trim text) ≤ longestSafe &&
    match Layout.of (trim text) with
    | none => false
    | some l => l.isSafe

end SqlAtlas.SqlName
