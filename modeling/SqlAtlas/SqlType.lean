/-
SqlAtlas.SqlType — a SQL type as it stands in a column definition, with its
base name and the sizes it was made from.

The base name is what is left of the full name without its parenthesised and
bracketed parts: `int(10) unsigned` has the base name `int unsigned`. One
depth counts both kinds of brackets, a closer without an opener is dropped,
and the rest is brought to small letters with single spaces.

A descriptor made from a text keeps the text trimmed, and a text without a
base name makes none.
-/
import SqlAtlas.Fault
import SqlAtlas.Sizing
import SqlAtlas.Text.LowerCase

namespace SqlAtlas

open Text (lowerCase trim unwords words)

/-! ## 1. Base names -/

/-- The characters outside all brackets. `depth` counts the brackets open
before the text. -/
def outsideBrackets (depth : Nat) : List Char → List Char
  | [] => []
  | c :: r =>
    if c = '(' || c = '[' then outsideBrackets (depth + 1) r
    else if c = ')' || c = ']' then outsideBrackets (depth - 1) r
    else if depth = 0 then c :: outsideBrackets depth r
    else outsideBrackets depth r

/-- The words of a text, in small letters, with one space between
neighbours. -/
def normalWords (s : List Char) : List Char := lowerCase (unwords (words s))

/-- The base name of a SQL type name. -/
def baseName (name : List Char) : List Char := normalWords (outsideBrackets 0 name)

/-! ## 2. Descriptors -/

/-- A SQL type name, its base name, and its sizes. -/
structure SqlType extends Sizing where
  name : String
  baseName : String
  deriving DecidableEq, Repr

namespace SqlType

/-- The unsized type of a name that is known to be trimmed. -/
def plain (name : String) : SqlType :=
  ⟨Sizing.unsized false, name, String.ofList (SqlAtlas.baseName name.toList)⟩

/-- The unsized type that a text names: the text is trimmed and must have a
base name. -/
def ofName (text : List Char) : Except Fault SqlType :=
  let name := trim text
  if name.isEmpty || (SqlAtlas.baseName name).isEmpty then .error (.typeName .emptySqlName)
  else .ok (plain (String.ofList name))

/-- Sets the length. -/
def withLength (t : SqlType) (length : Length) : SqlType := { t with length := some length }

/-- Sets the precision and clears the scale. -/
def withPrecision (t : SqlType) (precision : UInt16) : SqlType :=
  { t with toSizing := t.toSizing.setPrecision precision }

/-- Sets precision and scale. -/
def withPrecisionScale (t : SqlType) (precision scale : UInt16) : SqlType :=
  { t with toSizing := t.toSizing.setPrecisionScale precision scale }

/-- Sets whether text is unicode. -/
def withUnicode (t : SqlType) (unicode : Bool) : SqlType := { t with unicode := unicode }

/-- Sets whether the length is fixed. -/
def withFixed (t : SqlType) (fixed : Bool) : SqlType := { t with fixed := fixed }

end SqlType

end SqlAtlas
