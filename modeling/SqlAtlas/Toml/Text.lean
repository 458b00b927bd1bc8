/-
SqlAtlas.Toml.Text — the texts and keys of a TOML document.

A reader takes characters off the front of the document and may fail. Texts
come in four forms: on one line or on several, with escapes or without. The
document has single line feeds at its line ends and no other control
characters than tabs before any of these readers sees it (`cleaned?`), so
here only a line feed can be out of place.
-/
import SqlAtlas.Text.Blank

namespace SqlAtlas.Toml

/-- Reads from the front of a document, or fails. -/
abbrev Reader := StateT (List Char) Option

/-! ## 1. Lines -/

/-- The document with a line feed in place of every carriage return that one
follows. -/
def plainLines : List Char → List Char
  | [] => []
  | '\r' :: '\n' :: r => '\n' :: plainLines r
  | c :: r => c :: plainLines r

/-- A character that a document may hold. -/
def isAllowed (c : Char) : Bool :=
  c = '\t' || c = '\n' || (0x20 ≤ c.toNat && c.toNat ≠ 0x7F)

/-- The document without the mark of byte order that may begin it. -/
def dropMark : List Char → List Char
  | '\uFEFF' :: r => r
  | s => s

/-- The document with plain lines, if it holds allowed characters only. -/
def cleaned? (document : List Char) : Option (List Char) :=
  let s := plainLines (dropMark document)
  if s.all isAllowed then some s else none

/-- A blank within a line. -/
def isSpace (c : Char) : Bool := c = ' ' || c = '\t'

/-- Passes over the blanks within a line. -/
def spaces : Reader Unit := modify (·.dropWhile isSpace)

/-- Takes the given character. -/
def expect (c : Char) : Reader Unit := do
  match ← get with
  | d :: r => if d = c then set r else failure
  | [] => failure

/-- Passes over blanks, a comment, and the end of the line. -/
def endOfLine : Reader Unit := do
  spaces
  match ← get with
  | [] => pure ()
  | '\n' :: r => set r
  | '#' :: r => set ((r.dropWhile (· ≠ '\n')).drop 1)
  | _ => failure

/-- What is left behind blanks, line ends and comments. -/
def behindVoid (inComment : Bool) : List Char → List Char
  | [] => []
  | c :: r =>
    if inComment then behindVoid (c ≠ '\n') r
    else if c = '#' then behindVoid true r
    else if isSpace c || c = '\n' then behindVoid false r
    else c :: r

/-- Passes over blanks, line ends and comments. -/
def void : Reader Unit := modify (behindVoid false)

/-! ## 2. Escapes -/

/-- The character of a short escape. -/
def shortEscape? : Char → Option Char
  | 'b' => some '\x08'
  | 't' => some '\t'
  | 'n' => some '\n'
  | 'f' => some '\x0C'
  | 'r' => some '\r'
  | '"' => some '"'
  | '\\' => some '\\'
  | _ => none

/-- The value of a hexadecimal digit. -/
def hexValue? (c : Char) : Option Nat :=
  if c.isDigit then some (c.toNat - '0'.toNat)
  else if 'a' ≤ c ∧ c ≤ 'f' then some (c.toNat - 'a'.toNat + 10)
  else if 'A' ≤ c ∧ c ≤ 'F' then some (c.toNat - 'A'.toNat + 10)
  else none

/-- The value of hexadecimal digits. -/
def hexNumber? (digits : List Char) : Option Nat :=
  (digits.mapM hexValue?).map (fun values => values.foldl (fun n v => 16 * n + v) 0)

/-- The character of a code point given in hexadecimal digits. -/
def codePoint? (digits : List Char) : Option Char :=
  (hexNumber? digits).bind fun n => if n.isValidChar then some (Char.ofNat n) else none

/-- Puts a character that may have been read in front of a text that may have
been read. -/
def consRead (c? : Option Char) (read : Option (List Char × List Char)) :
    Option (List Char × List Char) :=
  match c?, read with
  | some c, some (s, r) => some (c :: s, r)
  | _, _ => none

/-! ## 3. Texts on one line -/

/-- A text with escapes, behind its opening quote. -/
def escapedLine : List Char → Option (List Char × List Char)
  | [] => none
  | '"' :: r => some ([], r)
  | '\n' :: _ => none
  | '\\' :: 'u' :: a :: b :: c :: d :: r => consRead (codePoint? [a, b, c, d]) (escapedLine r)
  | '\\' :: 'U' :: a :: b :: c :: d :: e :: f :: g :: h :: r =>
    consRead (codePoint? [a, b, c, d, e, f, g, h]) (escapedLine r)
  | '\\' :: c :: r => consRead (shortEscape? c) (escapedLine r)
  | c :: r => consRead (some c) (escapedLine r)

/-- A text without escapes, behind its opening quote. -/
def literalLine : List Char → Option (List Char × List Char)
  | [] => none
  | '\x27' :: r => some ([], r)
  | '\n' :: _ => none
  | c :: r => consRead (some c) (literalLine r)

/-! ## 4. Texts on several lines -/

/-- What comes behind an opening of three quotes: a line end right there does
not belong to the text. -/
def behindOpening : List Char → List Char
  | '\n' :: r => r
  | s => s

/-- What comes behind a closing of three quotes: one or two more quotes still
belong to the text. -/
def behindClosing (quote : Char) : List Char → List Char × List Char
  | a :: b :: r =>
    if a = quote && b = quote then ([quote, quote], r)
    else if a = quote then ([quote], b :: r)
    else ([], a :: b :: r)
  | [a] => if a = quote then ([quote], []) else ([], [a])
  | [] => ([], [])

/-- Whether a backslash stands at the end of its line, given what comes behind
it. -/
def endsLine (s : List Char) : Bool := (s.dropWhile isSpace).head? = some '\n'

/-- A text with escapes, behind its opening quotes. A backslash at the end of
a line joins it to the next word; while `joining`, blanks and line ends are
passed over. -/
def escapedLines (joining : Bool) : List Char → Option (List Char × List Char)
  | [] => none
  | '"' :: '"' :: '"' :: r => some (behindClosing '"' r)
  | '\\' :: 'u' :: a :: b :: c :: d :: r =>
    consRead (codePoint? [a, b, c, d]) (escapedLines false r)
  | '\\' :: 'U' :: a :: b :: c :: d :: e :: f :: g :: h :: r =>
    consRead (codePoint? [a, b, c, d, e, f, g, h]) (escapedLines false r)
  | '\\' :: c :: r =>
    if endsLine (c :: r) then escapedLines true r
    else consRead (shortEscape? c) (escapedLines false r)
  | c :: r =>
    if joining && (isSpace c || c = '\n') then escapedLines true r
    else consRead (some c) (escapedLines false r)

/-- A text without escapes, behind its opening quotes. -/
def literalLines : List Char → Option (List Char × List Char)
  | [] => none
  | '\x27' :: '\x27' :: '\x27' :: r => some (behindClosing '\x27' r)
  | c :: r => consRead (some c) (literalLines r)

/-! ## 5. Texts and keys -/

/-- A text on one line, of either form, if one stands here. -/
def lineText? : List Char → Option (List Char × List Char)
  | '"' :: r => escapedLine r
  | '\x27' :: r => literalLine r
  | _ => none

/-- A text of any form, if one stands here. -/
def text? : List Char → Option (List Char × List Char)
  | '"' :: '"' :: '"' :: r => escapedLines false (behindOpening r)
  | '\x27' :: '\x27' :: '\x27' :: r => literalLines (behindOpening r)
  | s => lineText? s

/-- A character of a key without quotes. -/
def isBareKeyChar (c : Char) : Bool := c.isAlphanum || c = '_' || c = '-'

/-- One part of a key. -/
def keyPart : Reader String := do
  let s ← get
  match lineText? s with
  | some (part, r) => set r; return String.ofList part
  | none =>
    let part := s.takeWhile isBareKeyChar
    if part.isEmpty then failure
    set (s.drop part.length)
    return String.ofList part

/-- The parts of a key behind its first, each behind a dot. `fuel` is more
than their number. -/
def keyRest : Nat → Reader (List String)
  | 0 => failure
  | fuel + 1 => do
    spaces
    match ← get with
    | '.' :: r =>
      set r
      spaces
      let part ← keyPart
      return part :: (← keyRest fuel)
    | _ => return []

/-- A key: parts with dots between them, blanks around the dots or not. -/
def key : Reader (List String) := do
  spaces
  let part ← keyPart
  return part :: (← keyRest ((← get).length + 1))

end SqlAtlas.Toml
