/-
SqlAtlas.Gate.Options — what a caller may choose about the gate: the longest
expression, and keywords denied in addition to the built-in ones.

An additional keyword is trimmed and may hold ASCII letters, digits,
underscores and dots. If it ends in an underscore or a dot it is denied at
the beginning of every word, otherwise as a whole word.
-/
import SqlAtlas.Gate.DenyRule
import SqlAtlas.Text.Blank

namespace SqlAtlas.Gate

open Text (trim)

/-- The longest expression unless a caller chooses another, in characters. -/
def defaultMaxLength : Nat := 2048

/-- What a caller may choose. -/
structure Options where
  maxLength : Nat := defaultMaxLength
  extraKeywords : List String := []
  deriving DecidableEq, Repr

/-- Options that make no gate. -/
inductive OptionsFault where
  | zeroMaxLength
  | invalidKeyword (keyword : String)
  deriving DecidableEq, Repr

/-- The wording of an options fault. -/
def OptionsFault.message : OptionsFault → String
  | zeroMaxLength => "max_length must be greater than zero"
  | invalidKeyword keyword =>
    s!"invalid denied keyword '{keyword}': only letters, digits, '_' and '.' are allowed"

/-- A character of an additional keyword. -/
def isKeywordChar (c : Char) : Bool := c.isAlphanum || c = '_' || c = '.'

/-- Whether a keyword is denied at the beginning of every word. -/
def marksPrefix (keyword : List Char) : Bool :=
  keyword.getLast? = some '_' || keyword.getLast? = some '.'

/-- The rule of an additional keyword. -/
def ruleOf (extra : String) : Except OptionsFault DenyRule :=
  let keyword := trim extra.toList
  if keyword.isEmpty || !keyword.all isKeywordChar then
    .error (.invalidKeyword (String.ofList keyword))
  else .ok ⟨String.ofList keyword, if marksPrefix keyword then .wordStart else .word⟩

/-- The rules of additional keywords, in order, or the fault of the first
that has none. -/
def rulesOf : List String → Except OptionsFault (List DenyRule)
  | [] => .ok []
  | extra :: rest =>
    match ruleOf extra with
    | .error fault => .error fault
    | .ok rule =>
      match rulesOf rest with
      | .error fault => .error fault
      | .ok rules => .ok (rule :: rules)

end SqlAtlas.Gate
