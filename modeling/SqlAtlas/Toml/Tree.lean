/-
SqlAtlas.Toml.Tree — the tables of a TOML document while they are built.

A table may come from a header, from a header further down that passes
through it, or from a key with dots. Which of these it was decides what may
still be added to it: a header may take over a table that it only passed
through before, a key with dots may not enter a table with a header of its
own, and nothing is written twice.
-/
import SqlAtlas.Config.Setting

namespace SqlAtlas.Toml

open Config (Setting)

/-! ## 1. Nodes -/

/-- Where a table comes from: its own header, a header that passed through
it, or a key with dots. -/
inductive TableOrigin where
  | header
  | passage
  | dotted
  deriving DecidableEq, Repr

/-- What stands under a key: a value, a table, or the tables that repeated
headers have added so far. -/
inductive Node where
  | value (v : Setting)
  | table (origin : TableOrigin) (members : List (String × Node))
  | tables (elements : List (List (String × Node)))
  deriving Repr

/-- The nodes of a table under their keys. -/
abbrev Members := List (String × Node)

mutual

/-- The value that a node is. -/
def Node.toSetting : Node → Setting
  | .value v => v
  | .table _ members => .table (settings members)
  | .tables elements => .list (tableSettings elements)

/-- The values under the keys of a table. -/
def settings : List (String × Node) → List (String × Setting)
  | [] => []
  | (key, node) :: members => (key, node.toSetting) :: settings members

/-- The values of tables. -/
def tableSettings : List (List (String × Node)) → List Setting
  | [] => []
  | members :: elements => .table (settings members) :: tableSettings elements

end

/-! ## 2. Changes -/

/-- The members with the node under a key put in place of what was there, if
anything was. -/
def Members.alter (key : String) (change : Option Node → Option Node) : Members → Option Members
  | [] => (change none).map (fun node => [(key, node)])
  | (k, node) :: members =>
    if k = key then (change (some node)).map (fun node => (k, node) :: members)
    else (Members.alter key change members).map ((k, node) :: ·)

/-- The tables with their last one changed. -/
def changeLast (change : Members → Option Members) : List Members → Option (List Members)
  | [] => none
  | [members] => (change members).map ([·])
  | members :: elements => (changeLast change elements).map (members :: ·)

/-- Whether a path made by keys of this origin may enter a table. -/
def mayEnter (path origin : TableOrigin) : Bool := path ≠ .dotted || origin ≠ .header

/-- The members with the table at a path changed. Tables that are missing on
the way are made, with the given origin; of repeated tables the last one is
entered. -/
def changeAt (made : TableOrigin) (change : TableOrigin → Members → Option Members) :
    List String → TableOrigin → Members → Option Members
  | [], origin, members => change origin members
  | key :: path, _, members =>
    members.alter key fun node? =>
      match node? with
      | none => (changeAt made change path made []).map (.table made)
      | some (.value _) => none
      | some (.tables elements) =>
        (changeLast (changeAt made change path .header) elements).map .tables
      | some (.table origin inner) =>
        if mayEnter made origin then
          (changeAt made change path origin inner).map (.table origin)
        else none

/-! ## 3. Values and headers -/

/-- The table where the last key of a path stands, and that key. -/
def splitPath : List String → Option (List String × String)
  | [] => none
  | [key] => some ([], key)
  | key :: path => (splitPath path).map (fun p => (key :: p.1, p.2))

/-- Puts a value under a key that is not there yet. -/
def addNew (key : String) (v : Setting) (members : Members) : Option Members :=
  members.alter key fun
    | none => some (.value v)
    | some _ => none

/-- Puts a value under a key, with dots or without, into a table. The last
table that the dots lead to must come from dots itself. -/
def addValue (path : List String) (v : Setting) (members : Members) : Option Members := do
  let (tables, key) ← splitPath path
  changeAt .dotted
    (fun origin inner => if tables = [] || origin = .dotted then addNew key v inner else none)
    tables .header members

/-- Opens the table of a header. -/
def openTable (path : List String) (root : Members) : Option Members := do
  let (tables, key) ← splitPath path
  changeAt .passage
    (fun _ inner => inner.alter key fun
      | none => some (.table .header [])
      | some (.table .passage members) => some (.table .header members)
      | some _ => none)
    tables .header root

/-- Opens one more table under a repeated header. -/
def openElement (path : List String) (root : Members) : Option Members := do
  let (tables, key) ← splitPath path
  changeAt .passage
    (fun _ inner => inner.alter key fun
      | none => some (.tables [[]])
      | some (.tables elements) => some (.tables (elements ++ [[]]))
      | some _ => none)
    tables .header root

/-- Puts a value under a key into the table that was opened last. -/
def addUnder (header path : List String) (v : Setting) (root : Members) : Option Members :=
  changeAt .passage (fun _ members => addValue path v members) header .header root

end SqlAtlas.Toml
