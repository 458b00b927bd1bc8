/-
SqlAtlas.Text.Range — sets of characters given as closed ranges of code
points, and the look-up of one character in such a set.

The tables of this library list their ranges in ascending order, and only
beyond ASCII: what a property says of the ASCII characters is written out
where the property is defined, so a fact about plain letters, digits and
punctuation never has to read a table. The properties are those of
Unicode 17; what the edition before it did not have is listed by itself.
-/

namespace SqlAtlas.Text

/-- A set of characters as closed ranges of code points, in ascending
order. -/
abbrev Ranges := List (Nat × Nat)

/-- Whether the code point `n` lies in one of the ranges. The look-up stops
at the first range that begins above `n`. -/
def Ranges.has : Ranges → Nat → Bool
  | [], _ => false
  | (lo, hi) :: rest, n =>
    if n < lo then false else if n ≤ hi then true else Ranges.has rest n

/-- Whether the character is one of the 128 of ASCII. -/
def isAscii (c : Char) : Bool := c.toNat < 0x80

end SqlAtlas.Text
