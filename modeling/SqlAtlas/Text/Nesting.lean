/-
SqlAtlas.Text.Nesting — splitting a text at delimiters that stand outside
all parentheses and brackets.

Round and square nesting are counted apart, and a closer without an opener
counts for nothing, so `a),b` still splits at its comma. The depth that
decides about a character already includes that character: an opening
parenthesis given as a delimiter never cuts, a closing one may.

`cut` makes the pieces; `splitOutside` trims them and drops the blank ones.
-/
import SqlAtlas.Text.Blank

namespace SqlAtlas.Text

/-- How many parentheses and how many brackets are open. -/
structure Depth where
  parens : Nat
  brackets : Nat
  deriving DecidableEq, Repr

/-- Nothing is open. -/
def Depth.zero : Depth := ⟨0, 0⟩

/-- The depth after one more character. A closer without an opener leaves
the depth as it is. -/
def Depth.after (d : Depth) (c : Char) : Depth :=
  if c = '(' then { d with parens := d.parens + 1 }
  else if c = ')' then { d with parens := d.parens - 1 }
  else if c = '[' then { d with brackets := d.brackets + 1 }
  else if c = ']' then { d with brackets := d.brackets - 1 }
  else d

/-- Whether the character that led to this depth cuts the text: it is a
delimiter and nothing is open. -/
def Depth.cuts (d : Depth) (delimiters : List Char) (c : Char) : Bool :=
  d.parens = 0 && d.brackets = 0 && delimiters.contains c

/-- The pieces between the cuts of a text that starts at depth `d`, empty and
blank ones included. -/
def cut (delimiters : List Char) (d : Depth) : List Char → List (List Char)
  | [] => [[]]
  | c :: r =>
    if (d.after c).cuts delimiters c then [] :: cut delimiters (d.after c) r
    else addToFirst c (cut delimiters (d.after c) r)

/-- Splits a text at the delimiters outside all nesting. The pieces are
trimmed, and blank pieces are dropped. -/
def splitOutside (delimiters : List Char) (s : List Char) : List (List Char) :=
  ((cut delimiters Depth.zero s).map trim).filter (fun p => !p.isEmpty)

end SqlAtlas.Text
