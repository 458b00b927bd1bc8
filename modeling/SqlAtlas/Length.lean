/-
SqlAtlas.Length — how wide a text or byte column is: a number of characters
or bytes, or the widest form the dialect has.

A length is read from `max` in any letter case or from a positive number.
Zero is a number but no width, so it reads as nothing.
-/
import SqlAtlas.Text.Ascii
import SqlAtlas.Text.Blank
import SqlAtlas.Text.Numeral

namespace SqlAtlas

open Text (readUnsigned sameIgnoringCase trim)

/-- The width of a column. -/
inductive Length where
  | bounded (width : UInt32)
  | max
  deriving DecidableEq, Repr

namespace Length

/-- The greatest bounded width. -/
def greatestWidth : Nat := UInt32.size - 1

/-- Reads a width that is not zero. -/
def readWidth (text : List Char) : Option Length :=
  match readUnsigned greatestWidth text with
  | some 0 => none
  | some (n + 1) => some (bounded (UInt32.ofNat (n + 1)))
  | none => none

/-- Reads a length, blanks around it or not. -/
def read (text : List Char) : Option Length :=
  if sameIgnoringCase (trim text) "max".toList then some max else readWidth (trim text)

/-- A length as it is written. -/
def text : Length → String
  | bounded width => toString width.toNat
  | max => "max"

/-- Whether this is the widest form. -/
def isMax : Length → Bool
  | max => true
  | bounded _ => false

end Length

end SqlAtlas
