/-
SqlAtlas.TypeMap.Forward — from a native type to the SQL type of a dialect.

Nullables at the top are ignored. The byte buffer is a type of its own and
not an array. Any other array is kept as an array where the dialect has
arrays and the elements are scalars or byte buffers, whatever the number of
array levels between; otherwise it is kept as JSON, like every generic
collection. A type known by name only has no SQL type.
-/
import SqlAtlas.TypeMap.Rules

namespace SqlAtlas.TypeMap

/-! ## 1. Arrays -/

/-- The elements below all array levels and nullables, with the number of
dimensions on the way. `above` counts the dimensions above the type: once
there is one, a byte buffer is an element and not one more level. -/
def leafOf (above : Nat) : NativeType → Option (ArrayLeaf × Nat)
  | .nullable t => leafOf above t
  | .array t rank =>
    if 0 < above && (NativeType.array t rank).isBytes then some (.bytes, above)
    else leafOf (above + rank) t
  | .primitive kind => some (.primitive kind, above)
  | _ => none

/-- The SQL type of an array. -/
def array (dialect : Dialect) (d : NativeDescriptor) : SqlType :=
  match leafOf 0 d.type with
  | some (leaf, dimensions) => (array? dialect leaf dimensions d).getD (jsonText dialect d.unicode)
  | none => jsonText dialect d.unicode

/-! ## 2. Enumerations -/

/-- A number of characters as a width. Numbers beyond the greatest width
count as that. -/
def widthOf (n : Nat) : UInt32 := UInt32.ofNat (min n Length.greatestWidth)

/-- The length of an enumeration column, which holds the member names. It is
never less than the longest of them; without a length hint it is at least
the default. -/
def enumLength (members : List String) : Option Length → Length
  | some .max => .max
  | some (.bounded width) => .bounded (max width (widthOf (NativeType.longestMember members)))
  | none => .bounded (max defaultEnumWidth (widthOf (NativeType.longestMember members)))

/-! ## 3. The map -/

/-- The SQL type of a descriptor without nullables at the top. -/
def ofStripped (dialect : Dialect) (d : NativeDescriptor) : Option SqlType :=
  match d.type with
  | .primitive kind => some (primitive dialect kind d)
  | .array _ _ => some (if d.type.isBytes then binary dialect d else array dialect d)
  | .generic _ _ _ => some (jsonText dialect d.unicode)
  | .enum _ members => some (text dialect (enumLength members d.length) d.unicode false)
  | .json => some (json dialect d)
  | .geometry shape? => some (geometry dialect shape?)
  | .nullable _ => none
  | .named _ => none

/-- The SQL type of a descriptor, if its type has one. -/
def forward (dialect : Dialect) (d : NativeDescriptor) : Option SqlType :=
  ofStripped dialect d.stripNullable

end SqlAtlas.TypeMap
