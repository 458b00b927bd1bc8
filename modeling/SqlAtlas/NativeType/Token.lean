/-
SqlAtlas.NativeType.Token — the signs that a type name is written in.

A type name is a row of paths (dotted names) and marks (brackets, commas and
whatever else stands in the text). Blanks only divide: two texts that differ
in the blanks around marks have the same tokens. Each token keeps the
position of its first character, so that a reader can say where it stopped.
-/
import SqlAtlas.Text.Blank
import SqlAtlas.Text.WordChar

namespace SqlAtlas.NativeType

open Text (isAlphanumeric isBlank)

/-- A character of a path. -/
def isPathChar (c : Char) : Bool := isAlphanumeric c || c = '_' || c = '.'

/-- A sign of a type name: a longest run of path characters, or any other
character that is not blank. -/
inductive Token where
  | path (name : List Char)
  | mark (c : Char)
  deriving DecidableEq, Repr

/-- The number of characters of a token. -/
def Token.width : Token → Nat
  | path name => name.length
  | mark _ => 1

/-- A token and the position of its first character. -/
structure Lexeme where
  token : Token
  start : Nat
  deriving DecidableEq, Repr

/-- The position behind a token. -/
def Lexeme.stop (l : Lexeme) : Nat := l.start + l.token.width

/-- Puts a path character that stands at `pos` in front. It joins a path that
starts right behind it. -/
def join (c : Char) (pos : Nat) : List Lexeme → List Lexeme
  | ⟨.path p, start⟩ :: rest =>
    if start = pos + 1 then ⟨.path (c :: p), pos⟩ :: rest
    else ⟨.path [c], pos⟩ :: ⟨.path p, start⟩ :: rest
  | rest => ⟨.path [c], pos⟩ :: rest

/-- The tokens of a text whose first character stands at `pos`. -/
def lexemes (pos : Nat) : List Char → List Lexeme
  | [] => []
  | c :: r =>
    if isBlank c then lexemes (pos + 1) r
    else if isPathChar c then join c pos (lexemes (pos + 1) r)
    else ⟨.mark c, pos⟩ :: lexemes (pos + 1) r

/-- The tokens of a text, without their positions. -/
def tokens (text : List Char) : List Token := (lexemes 0 text).map Lexeme.token

end SqlAtlas.NativeType
