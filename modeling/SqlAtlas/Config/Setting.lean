/-
SqlAtlas.Config.Setting — the values a configuration is made of, and how a
section is taken from them.

A section has a fixed row of keys. It may be a table, which must not have
any other key, or a list, whose items belong to the keys in their order. A
key that is absent has no value; what its default is, is for the section to
say. Scalars that no key takes, such as fractions and dates, are kept as
`other`.
-/

namespace SqlAtlas.Config

/-- A value of a configuration. -/
inductive Setting where
  | flag (b : Bool)
  | whole (n : Int)
  | text (s : String)
  | other
  | list (items : List Setting)
  | table (members : List (String × Setting))
  deriving Repr

namespace Setting

/-- The greatest number that a key takes. -/
def greatestNatural : Nat := UInt64.size - 1

/-- A whole number that is not negative. -/
def natural? : Setting → Option Nat
  | whole n => if 0 ≤ n ∧ n.toNat ≤ greatestNatural then some n.toNat else none
  | _ => none

/-- A text. -/
def text? : Setting → Option String
  | text s => some s
  | _ => none

/-- A list of texts. -/
def texts? : Setting → Option (List String)
  | list items => items.mapM text?
  | _ => none

/-- The name of a choice: a text, or a table whose only member has that name
and is an empty table or list. -/
def choice? : Setting → Option String
  | text s => some s
  | table [(name, table [])] => some name
  | table [(name, list [])] => some name
  | _ => none

/-- The values of the given keys. -/
def section? (keys : List String) : Setting → Option (List (Option Setting))
  | table members =>
    if members.all (fun m => keys.contains m.1) then some (keys.map (fun k => members.lookup k))
    else none
  | list items => some (keys.zipIdx.map (fun p => items[p.2]?))
  | _ => none

/-- The value of a key, or its default if it is absent. A value that does not
read makes the section unreadable. -/
def valueOr {α : Type} (default : α) (read : Setting → Option α) : Option Setting → Option α
  | none => some default
  | some s => read s

end Setting

end SqlAtlas.Config
