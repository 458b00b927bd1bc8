/-
SqlAtlas.SqlName.Layout — the outer shape of a SQL type name: words, at most
one parameter list, more words, and bracket groups at the end.

    int (10) unsigned [] [3]
    ~~~  ~~  ~~~~~~~~     ~
    base params modifiers groups

The groups are taken off from the right, one by one, so the text is read
backwards until a character stands there that belongs to no group. What is
left must be free of brackets, and its parentheses must be one list that is
not nested. `Layout` keeps the parts as they stand in the text: what a part
may hold is for its reader to say.
-/
import SqlAtlas.Text.Blank

namespace SqlAtlas.SqlName

open Text (isBlank)

/-- The parts of a SQL type name, as they stand in the text. -/
structure Layout where
  base : List Char
  parameters? : Option (List Char)
  modifiers : List Char
  groups : List (List Char)
  deriving DecidableEq, Repr

/-! ## 1. Bracket groups -/

/-- Takes the bracket groups off a text that is given backwards, and returns
what is left, still backwards, and the contents of the groups in reading
order. `inside?` is the content so far of a group whose closing bracket has
been read. A group that is never opened makes the text unreadable. -/
def takeGroups (inside? : Option (List Char)) : List Char → Option (List Char × List (List Char))
  | [] =>
    match inside? with
    | none => some ([], [])
    | some _ => none
  | c :: r =>
    match inside? with
    | none =>
      if isBlank c then takeGroups none r
      else if c = ']' then takeGroups (some []) r
      else some (c :: r, [])
    | some content =>
      if c = '[' then
        match takeGroups none r with
        | some (rest, groups) => some (rest, groups ++ [content])
        | none => none
      else takeGroups (some (c :: content)) r

/-! ## 2. The parameter list -/

/-- Whether a text has no parenthesis. -/
def noParens (s : List Char) : Bool := s.all (fun c => c ≠ '(' && c ≠ ')')

/-- Whether a text has no bracket. -/
def noBrackets (s : List Char) : Bool := s.all (fun c => c ≠ '[' && c ≠ ']')

/-- Splits a text without groups at its parameter list. -/
def ofGroupless (s : List Char) (groups : List (List Char)) : Option Layout :=
  let base := s.takeWhile (· ≠ '(')
  match s.dropWhile (· ≠ '(') with
  | [] => if noParens base then some ⟨base, none, [], groups⟩ else none
  | _ :: r =>
    let parameters := r.takeWhile (· ≠ ')')
    match r.dropWhile (· ≠ ')') with
    | [] => none
    | _ :: modifiers =>
      if noParens base && noParens parameters && noParens modifiers then
        some ⟨base, some parameters, modifiers, groups⟩
      else none

/-! ## 3. Whole names -/

/-- The parts of a name, if it has the outer shape of one. -/
def Layout.of (name : List Char) : Option Layout :=
  match takeGroups none name.reverse with
  | none => none
  | some (rest, groups) => if noBrackets rest then ofGroupless rest.reverse groups else none

end SqlAtlas.SqlName
