/-
SqlAtlas.NativeType.Name — the canonical name of a native type.

Arguments of a generic type are divided by a comma and one space, an array
of n dimensions shows n - 1 commas between its brackets, and an enumeration
shows its name only, so it cannot be told from a type known by name. A shape
without a name of its own (rank 0) is written like its nearest sound one.
-/
import SqlAtlas.NativeType

namespace SqlAtlas.NativeType

/-- The name of a generic type behind its scope. -/
def qualified (scope? : Option String) (name : String) : List Char :=
  match scope? with
  | some scope => scope.toList ++ '.' :: name.toList
  | none => name.toList

mutual

/-- The canonical name of a type, character by character. -/
def spell : NativeType → List Char
  | primitive p => p.name.toList
  | nullable t => "Nullable<".toList ++ spell t ++ ['>']
  | array t rank => spell t ++ '[' :: List.replicate (rank - 1) ',' ++ [']']
  | generic scope? name ts => qualified scope? name ++ '<' :: spellAll ts ++ ['>']
  | enum name _ => name.toList
  | json => "Json".toList
  | geometry none => "Geometry".toList
  | geometry (some g) => g.name.toList
  | named name => name.toList

/-- The canonical names of the arguments of a generic type. -/
def spellAll : List NativeType → List Char
  | [] => []
  | [t] => spell t
  | t :: u :: ts => spell t ++ ", ".toList ++ spellAll (u :: ts)

end

/-- The canonical name of a type. -/
def name (t : NativeType) : String := String.ofList (spell t)

end SqlAtlas.NativeType
