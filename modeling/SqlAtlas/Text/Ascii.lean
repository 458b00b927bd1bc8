/-
SqlAtlas.Text.Ascii — comparison of short fixed spellings without regard to
the case of ASCII letters, and the length of a text in bytes.

Aliases, size words and geometry names are plain ASCII, so only the letters
`A` to `Z` are folded: a letter beyond ASCII that merely looks like one of
them stays different from it.
-/

namespace SqlAtlas.Text

/-- The text with its ASCII capitals made small. -/
def lowerAscii (s : List Char) : List Char := s.map Char.toLower

/-- Whether two texts differ at most in the case of ASCII letters. -/
def sameIgnoringCase (s t : List Char) : Bool := lowerAscii s == lowerAscii t

/-- The length of a text in bytes of UTF-8. -/
def byteLength : List Char → Nat
  | [] => 0
  | c :: r => c.utf8Size + byteLength r

/-- Whether `part` stands somewhere in the text. -/
def contains (part : List Char) : List Char → Bool
  | [] => part.isEmpty
  | c :: r => part.isPrefixOf (c :: r) || contains part r

end SqlAtlas.Text
