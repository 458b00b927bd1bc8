/-
SqlAtlas.SqlName — a SQL type name taken apart: base words, arguments,
modifiers, and the number of array dimensions.

`int(10) unsigned` has the base `int`, the argument `10` and the modifiers
`unsigned`; `numeric(18,6)[]` has two arguments and one dimension. Words are
brought to small letters and must be plain (ASCII letters and digits,
underscores and dots); arguments are kept as they are written.

`spell` is the other direction: it writes a base, its arguments and its
dimensions as a name.
-/
import SqlAtlas.Length
import SqlAtlas.SqlName.Layout
import SqlAtlas.SqlType
import SqlAtlas.Text.Nesting

namespace SqlAtlas

open Text (readUnsigned splitOutside trim)

/-- The parts of a SQL type name. -/
structure SqlName where
  name : String
  base : String
  arguments : List String
  modifiers : String
  dimensions : Nat
  deriving DecidableEq, Repr

namespace SqlName

/-! ## 1. Reading -/

/-- Whether normal words are plain: ASCII letters and digits, underscores and
dots, with spaces between them. -/
def isPlain (s : List Char) : Bool :=
  s.all (fun c => c.isAlphanum || c = '_' || c = ' ' || c = '.')

/-- Whether the content of a bracket group is a size or blank. -/
def isGroupSize (content : List Char) : Bool := (trim content).all Char.isDigit

/-- The arguments of a parameter list that may be absent. A list that is
present has an argument. -/
def readArguments : Option (List Char) → Option (List String)
  | none => some []
  | some parameters =>
    match splitOutside [','] parameters with
    | [] => none
    | a :: as => some ((a :: as).map String.ofList)

/-- The parts of a name with the given outer shape. -/
def ofLayout? (name : List Char) (l : Layout) : Option SqlName :=
  let base := normalWords l.base
  let modifiers := normalWords l.modifiers
  if l.groups.all isGroupSize && !base.isEmpty && isPlain base && isPlain modifiers then
    (readArguments l.parameters?).map fun arguments =>
      { name := String.ofList name
        base := String.ofList base
        arguments := arguments
        modifiers := String.ofList modifiers
        dimensions := l.groups.length }
  else none

/-- Takes a SQL type name apart, blanks around it or not. -/
def read (text : List Char) : Option SqlName :=
  (Layout.of (trim text)).bind (ofLayout? (trim text))

/-! ## 2. Questions about the parts -/

/-- The base with its modifiers. -/
def key (n : SqlName) : String := if n.modifiers = "" then n.base else n.base ++ " " ++ n.modifiers

/-- The name of the array's element. -/
def element (n : SqlName) : SqlName := { n with dimensions := 0 }

/-- The same parts on another base. -/
def withBase (n : SqlName) (base : String) : SqlName := { n with base := base }

/-- A single argument read as a length. -/
def length? (n : SqlName) : Option Length :=
  match n.arguments with
  | [a] => Length.read a.toList
  | _ => none

/-- A number of digits. -/
def readPrecision (text : String) : Option UInt16 :=
  (readUnsigned (UInt16.size - 1) text.toList).map UInt16.ofNat

/-- One argument read as a precision, or two as precision and scale. -/
def precisionScale? (n : SqlName) : Option (UInt16 × Option UInt16) :=
  match n.arguments with
  | [p] => (readPrecision p).map (fun p => (p, none))
  | [p, s] =>
    match readPrecision p, readPrecision s with
    | some p, some s => some (p, some s)
    | _, _ => none
  | _ => none

/-! ## 3. Writing -/

/-- The arguments with commas between them. -/
def spellArguments : List String → List Char
  | [] => []
  | [a] => a.toList
  | a :: b :: as => a.toList ++ ',' :: spellArguments (b :: as)

/-- The parameter list, which is left out when there are no arguments. -/
def spellParameters : List String → List Char
  | [] => []
  | a :: as => '(' :: spellArguments (a :: as) ++ [')']

/-- One empty bracket group for each dimension. -/
def spellDimensions : Nat → List Char
  | 0 => []
  | n + 1 => '[' :: ']' :: spellDimensions n

/-- A name from its base, its arguments and its dimensions. -/
def spell (base : String) (arguments : List String) (dimensions : Nat) : String :=
  String.ofList (base.toList ++ spellParameters arguments ++ spellDimensions dimensions)

end SqlName

end SqlAtlas
