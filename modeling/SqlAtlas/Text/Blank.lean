/-
SqlAtlas.Text.Blank — white space: which characters are blank, trimming
them off the ends of a text, and cutting a text into the words between
them.

`pieces` is the one cutting function; `words` are its pieces that are not
empty, so no run of blanks, however long, makes a word.
-/
import SqlAtlas.Text.Range

namespace SqlAtlas.Text

/-! ## 1. Blank characters -/

/-- The characters beyond ASCII with the property White_Space. -/
def blankTable : Ranges :=
  [(0x85, 0x85), (0xA0, 0xA0), (0x1680, 0x1680), (0x2000, 0x200A), (0x2028, 0x2029),
   (0x202F, 0x202F), (0x205F, 0x205F), (0x3000, 0x3000)]

/-- White space: tab, line feed, vertical tab, form feed, carriage return,
the space, and the characters of `blankTable`. -/
def isBlank (c : Char) : Bool :=
  if isAscii c then c = ' ' || ('\t' ≤ c && c ≤ '\r') else blankTable.has c.toNat

/-! ## 2. Trimming -/

/-- The text without its leading blanks. -/
def trimStart (s : List Char) : List Char := s.dropWhile isBlank

/-- The text without its trailing blanks. -/
def trimEnd (s : List Char) : List Char := (s.reverse.dropWhile isBlank).reverse

/-- The text without the blanks at its two ends. -/
def trim (s : List Char) : List Char := trimEnd (trimStart s)

/-! ## 3. Words -/

/-- Puts a character in front of the first piece. -/
def addToFirst (c : Char) : List (List Char) → List (List Char)
  | [] => [[c]]
  | p :: ps => (c :: p) :: ps

/-- The pieces between the characters that `isCut` accepts, in order, the
empty ones included: a text with `n` cuts has `n + 1` pieces. -/
def pieces (isCut : Char → Bool) : List Char → List (List Char)
  | [] => [[]]
  | c :: r => if isCut c then [] :: pieces isCut r else addToFirst c (pieces isCut r)

/-- The words of a text: its longest runs without a blank. -/
def words (s : List Char) : List (List Char) :=
  (pieces isBlank s).filter (fun p => !p.isEmpty)

/-- The words with one space between neighbours. -/
def unwords : List (List Char) → List Char
  | [] => []
  | [w] => w
  | w :: ws => w ++ ' ' :: unwords ws

end SqlAtlas.Text
