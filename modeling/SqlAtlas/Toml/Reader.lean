/-
SqlAtlas.Toml.Reader — reading a TOML document.

A document is a row of lines: keys with values, headers, comments and blank
lines. Everything is taken from the front; each step takes at least one
character, so that the length of the document bounds the number of steps. A
document that breaks a rule gives nothing: there is no telling which.
-/
import SqlAtlas.Toml.Scalar
import SqlAtlas.Toml.Tree

namespace SqlAtlas.Toml

open Config (Setting)

/-- A step that may fail, as a reader that takes nothing. -/
def orFail {α : Type} : Option α → Reader α
  | some a => pure a
  | none => failure

/-! ## 1. Values -/

/-- Takes a quoted text if one stands here, otherwise a scalar. -/
def textOrScalar : Reader Setting := do
  match text? (← get) with
  | some (t, r) => set r; return .text (String.ofList t)
  | none => scalar

mutual

/-- Takes a value. -/
def value : Nat → Reader Setting
  | 0 => failure
  | fuel + 1 => do
    match ← get with
    | '[' :: r => set r; return .list (← items fuel)
    | '\x7b' :: r => set r; return .table (settings (← inlineTable fuel))
    | _ => textOrScalar

/-- Takes the items of a list, behind its bracket or a comma, up to the
closing bracket. A comma may come last. -/
def items : Nat → Reader (List Setting)
  | 0 => failure
  | fuel + 1 => do
    void
    match ← get with
    | ']' :: r => set r; return []
    | _ =>
      let v ← value fuel
      void
      match ← get with
      | ',' :: r => set r; return v :: (← items fuel)
      | ']' :: r => set r; return [v]
      | _ => failure

/-- Takes a table on one line, behind its brace. -/
def inlineTable : Nat → Reader Members
  | 0 => failure
  | fuel + 1 => do
    spaces
    match ← get with
    | '\x7d' :: r => set r; return []
    | _ => inlineMembers fuel []

/-- Takes the members of a table on one line, behind its brace or a comma, up
to the closing brace. A comma must not come last. -/
def inlineMembers : Nat → Members → Reader Members
  | 0, _ => failure
  | fuel + 1, members => do
    let path ← key
    expect '='
    spaces
    let v ← value fuel
    spaces
    let members ← orFail (addValue path v members)
    match ← get with
    | ',' :: r => set r; inlineMembers fuel members
    | '\x7d' :: r => set r; return members
    | _ => failure

end

/-! ## 2. Lines -/

/-- Takes a header with one bracket, behind that bracket. -/
def header : Reader (List String) := do
  let path ← key
  expect ']'
  return path

/-- Takes a header with two brackets, behind them. -/
def elementHeader : Reader (List String) := do
  let path ← header
  expect ']'
  return path

/-- Takes a key with its value. -/
def keyValue : Reader (List String × Setting) := do
  let path ← key
  expect '='
  spaces
  let v ← value ((← get).length + 1)
  return (path, v)

/-- Takes the lines of a document to its end. `current` is the path of the
header that was read last. -/
def lines : Nat → List String → Members → Reader Members
  | 0, _, _ => failure
  | fuel + 1, current, root => do
    void
    match ← get with
    | [] => return root
    | '[' :: '[' :: r =>
      set r
      let path ← elementHeader
      endOfLine
      lines fuel path (← orFail (openElement path root))
    | '[' :: r =>
      set r
      let path ← header
      endOfLine
      lines fuel path (← orFail (openTable path root))
    | _ =>
      let (path, v) ← keyValue
      endOfLine
      lines fuel current (← orFail (addUnder current path v root))

/-- Reads a document. -/
def read (document : List Char) : Option Setting := do
  let s ← cleaned? document
  let (root, _) ← (lines (s.length + 1) [] []).run s
  return .table (settings root)

end SqlAtlas.Toml
