/-
SqlAtlas.Proofs.TypeMap.Renaming — the names inside a native type have no part
in its column.

A native type holds names of the host application: those of enumerations and
their members, of generic collections and of what they collect. `Renamed`
relates two types that differ in such names only. Of an enumeration the length
of its longest member counts, since the column has to hold it; of a collection
nothing counts but that it is one. `resolve_renamed` says that two such types
have the same column, in every dialect and whatever is pinned.
-/
import SqlAtlas.Proofs.TypeMap.Arrays
import SqlAtlas.TypeMap.Resolve

namespace SqlAtlas.TypeMap

open NativeType (longestMember)

/-! ## 1. Renamed types -/

/-- The second type is the first with other names, anywhere below nullables and
arrays. -/
inductive Renamed : NativeType → NativeType → Prop
  | refl (t : NativeType) : Renamed t t
  | nullable {t u : NativeType} (h : Renamed t u) : Renamed (.nullable t) (.nullable u)
  | array {t u : NativeType} (h : Renamed t u) (rank : Nat) :
      Renamed (.array t rank) (.array u rank)
  | generic (scope? scope'? : Option String) (name name' : String)
      (arguments arguments' : List NativeType) :
      Renamed (.generic scope? name arguments) (.generic scope'? name' arguments')
  | enum (name name' : String) {members members' : List String}
      (h : longestMember members = longestMember members') :
      Renamed (.enum name members) (.enum name' members')

namespace Renamed

variable {t u : NativeType}

theorem stripNullable (h : Renamed t u) : Renamed t.stripNullable u.stripNullable := by
  induction h with
  | refl t => exact refl _
  | nullable h ih => exact ih
  | array h rank => exact array h rank
  | generic scope? scope'? name name' arguments arguments' => exact generic ..
  | enum name name' h => exact enum name name' h

/-- Only a scalar type is a renamed scalar type. -/
theorem eq_primitive_iff (h : Renamed t u) (kind : Primitive) :
    t = .primitive kind ↔ u = .primitive kind := by
  cases h <;> simp

theorem eq_bytes_iff (h : Renamed t u) : t = .bytes ↔ u = .bytes := by
  cases h with
  | array h rank => simp [NativeType.bytes, NativeType.arrayOf, h.eq_primitive_iff]
  | _ => simp [NativeType.bytes, NativeType.arrayOf]

/-- What is renamed is a byte buffer only if it was one before. -/
theorem isBytes (h : Renamed t u) : t.isBytes = u.isBytes := by
  rw [NativeType.isBytes, NativeType.isBytes, decide_eq_decide]
  exact h.stripNullable.eq_bytes_iff

theorem leafOf (h : Renamed t u) (above : Nat) :
    TypeMap.leafOf above t = TypeMap.leafOf above u := by
  induction h generalizing above with
  | nullable h ih => exact ih above
  | array h rank ih =>
      rw [TypeMap.leafOf, TypeMap.leafOf, (h.array rank).isBytes, ih]
  | _ => rfl

end Renamed

/-! ## 2. Columns -/

theorem binary_withType (dialect : Dialect) (d : NativeDescriptor) (type : NativeType) :
    binary dialect (d.withType type) = binary dialect d := by
  cases dialect <;> rfl

theorem array?_withType (dialect : Dialect) (leaf : ArrayLeaf) (dimensions : Nat)
    (d : NativeDescriptor) (type : NativeType) :
    array? dialect leaf dimensions (d.withType type) = array? dialect leaf dimensions d := by
  cases dialect with
  | postgreSql => simp only [array?, PostgreSql.array, element_withType]
  | _ => rfl

/-- The column of an array depends on what it is an array of, and on nothing
else in its type. -/
theorem array_withType {t u : NativeType} (h : TypeMap.leafOf 0 t = TypeMap.leafOf 0 u)
    (dialect : Dialect) (d : NativeDescriptor) :
    array dialect (d.withType t) = array dialect (d.withType u) := by
  simp only [array, NativeDescriptor.withType] at h ⊢
  rw [h]
  split
  · rename_i leaf dimensions _
    rw [← NativeDescriptor.withType, ← NativeDescriptor.withType, array?_withType,
        array?_withType]
  · rfl

theorem enumLength_congr {members members' : List String}
    (h : longestMember members = longestMember members') (length? : Option Length) :
    enumLength members length? = enumLength members' length? := by
  rcases length? with _ | _ | _ <;> simp only [enumLength, h]

theorem ofStripped_renamed {t u : NativeType} (h : Renamed t u) (dialect : Dialect)
    (d : NativeDescriptor) :
    ofStripped dialect (d.withType t) = ofStripped dialect (d.withType u) := by
  cases h with
  | @array t u h rank =>
      have hrow : ∀ v : NativeType, ofStripped dialect (d.withType (.array v rank))
          = some (if (NativeType.array v rank).isBytes then
              binary dialect (d.withType (.array v rank))
            else array dialect (d.withType (.array v rank))) := fun _ => rfl
      rw [hrow, hrow, (h.array rank).isBytes, binary_withType, binary_withType,
          array_withType ((h.array rank).leafOf 0)]
  | enum name name' h =>
      have hrow : ∀ a ms, ofStripped dialect (d.withType (.enum a ms))
          = some (text dialect (enumLength ms d.length) d.unicode false) := fun _ _ => rfl
      rw [hrow, hrow, enumLength_congr h]
  | _ => rfl

theorem forward_renamed {d : NativeDescriptor} {u : NativeType} (h : Renamed d.type u)
    (dialect : Dialect) : forward dialect (d.withType u) = forward dialect d :=
  (ofStripped_renamed h.stripNullable dialect d).symm

/-- **Renaming leaves the column as it is.** -/
theorem resolve_renamed {d : NativeDescriptor} {u : NativeType} (h : Renamed d.type u)
    (dialect : Dialect) (overrides : Overrides) :
    resolve dialect (d.withType u) overrides = resolve dialect d overrides := by
  rw [resolve, resolve, forward_renamed h]

end SqlAtlas.TypeMap
