/-
SqlAtlas.Json — JSON values, and the two ways in which they are written:
over several lines for readers, and on one line for logs.

An object made by `object` has its members in the order of their keys. In a
text the quote, the backslash and the control characters are escaped;
everything else stands for itself.
-/

namespace SqlAtlas

/-- A JSON value. -/
inductive Json where
  | null
  | bool (b : Bool)
  | num (n : Int)
  | str (s : String)
  | arr (items : List Json)
  | obj (members : List (String × Json))
  deriving Repr

namespace Json

/-! ## 1. Building values -/

/-- A natural number. -/
def nat (n : Nat) : Json := num n

/-- The value, or null in its absence. -/
def optional {α : Type} (encode : α → Json) : Option α → Json
  | some a => encode a
  | none => null

/-- Puts a member before the first one with a greater key. -/
def insertMember (m : String × Json) : List (String × Json) → List (String × Json)
  | [] => [m]
  | n :: rest => if m.1 < n.1 then m :: n :: rest else n :: insertMember m rest

/-- The object of the given members, in the order of their keys. -/
def object (members : List (String × Json)) : Json := obj (members.foldr insertMember [])

/-! ## 2. Texts -/

/-- A hexadecimal digit. -/
def hexDigit (n : Nat) : Char := (Nat.digitChar n)

/-- A control character without a short form, by its code point. -/
def escapeCode (n : Nat) : List Char :=
  ['\\', 'u', '0', '0', hexDigit (n / 16), hexDigit (n % 16)]

/-- A character within a text. -/
def escape (c : Char) : List Char :=
  if c = '"' then ['\\', '"']
  else if c = '\\' then ['\\', '\\']
  else if c = '\n' then ['\\', 'n']
  else if c = '\r' then ['\\', 'r']
  else if c = '\t' then ['\\', 't']
  else if c.toNat = 0x08 then ['\\', 'b']
  else if c.toNat = 0x0C then ['\\', 'f']
  else if c.toNat < 0x20 then escapeCode c.toNat
  else [c]

/-- A text between quotes. -/
def quote (s : String) : String := String.ofList ('"' :: s.toList.flatMap escape ++ ['"'])

/-! ## 3. One line -/

mutual

/-- A value on one line. -/
def compact : Json → String
  | null => "null"
  | bool true => "true"
  | bool false => "false"
  | num n => toString n
  | str s => quote s
  | arr items => "[" ++ compactItems items ++ "]"
  | obj members => "\x7b" ++ compactMembers members ++ "\x7d"

/-- The values of an array, with commas between them. -/
def compactItems : List Json → String
  | [] => ""
  | [a] => compact a
  | a :: b :: rest => compact a ++ "," ++ compactItems (b :: rest)

/-- The members of an object, with commas between them. -/
def compactMembers : List (String × Json) → String
  | [] => ""
  | [(k, a)] => quote k ++ ":" ++ compact a
  | (k, a) :: m :: rest => quote k ++ ":" ++ compact a ++ "," ++ compactMembers (m :: rest)

end

/-! ## 4. Several lines -/

/-- The beginning of a line at a depth: two spaces for each level. -/
def indent (depth : Nat) : String := String.ofList (List.replicate (2 * depth) ' ')

mutual

/-- A value over several lines, one member or item on each. -/
def prettyAt (depth : Nat) : Json → String
  | null => "null"
  | bool true => "true"
  | bool false => "false"
  | num n => toString n
  | str s => quote s
  | arr [] => "[]"
  | arr (a :: rest) => "[\n" ++ prettyItems (depth + 1) (a :: rest) ++ "\n" ++ indent depth ++ "]"
  | obj [] => "\x7b\x7d"
  | obj (m :: rest) =>
    "\x7b\n" ++ prettyMembers (depth + 1) (m :: rest) ++ "\n" ++ indent depth ++ "\x7d"

/-- The lines of the items of an array. -/
def prettyItems (depth : Nat) : List Json → String
  | [] => ""
  | [a] => indent depth ++ prettyAt depth a
  | a :: b :: rest => indent depth ++ prettyAt depth a ++ ",\n" ++ prettyItems depth (b :: rest)

/-- The lines of the members of an object. -/
def prettyMembers (depth : Nat) : List (String × Json) → String
  | [] => ""
  | [(k, a)] => indent depth ++ quote k ++ ": " ++ prettyAt depth a
  | (k, a) :: m :: rest =>
    indent depth ++ quote k ++ ": " ++ prettyAt depth a ++ ",\n" ++ prettyMembers depth (m :: rest)

end

/-- A value over several lines. -/
def pretty (j : Json) : String := prettyAt 0 j

end Json

end SqlAtlas
