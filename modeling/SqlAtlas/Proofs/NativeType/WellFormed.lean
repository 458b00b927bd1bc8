/-
SqlAtlas.Proofs.NativeType.WellFormed — the types whose canonical names are
names of one type.

A type can be built from any texts, and then its name may be anything: a
blank, a name with brackets in it, or the name of another type. `WellFormed`
is what keeps names apart. Names are written in the characters of a path;
the last dot of a generic type stands between its scope and its name, so the
name has none; and a type known by name only is not called like a scalar, a
marker or a shape.

An enumeration is written like a type known by name only, so its name cannot
say more: `withoutEnums` is the type that is left of a type in its name.
-/
import SqlAtlas.NativeType.Reader

namespace SqlAtlas.NativeType

open Text (isAlphanumeric)

/-! ## 1. Names -/

/-- A name of a type known by name only. -/
structure IsTypeName (name : String) : Prop where
  nonempty : name.toList ≠ []
  chars : ∀ c ∈ name.toList, isPathChar c = true
  head : name.toList.head? ≠ some '.'
  last : name.toList.getLast? ≠ some '.'
  not_primitive : ∀ kind : Primitive, name ≠ kind.name
  not_json : name ≠ "Json"
  not_geometry : name ≠ "Geometry"
  not_shape : ∀ g : Geometry, name ≠ g.name

/-- A name of a generic type behind its scope. -/
structure IsGenericName (name : String) : Prop where
  nonempty : name.toList ≠ []
  chars : ∀ c ∈ name.toList, (isAlphanumeric c || c = '_') = true

/-- A scope of a generic type. -/
structure IsScope (scope : String) : Prop where
  nonempty : scope.toList ≠ []
  chars : ∀ c ∈ scope.toList, isPathChar c = true
  head : scope.toList.head? ≠ some '.'

/-! ## 2. Types -/

/-- A type that its canonical name stands for. -/
inductive WellFormed : NativeType → Prop
  | primitive (kind : Primitive) : WellFormed (.primitive kind)
  | nullable {t : NativeType} (h : WellFormed t) (hn : ∀ u, t ≠ .nullable u) :
      WellFormed (.nullable t)
  | array {t : NativeType} {rank : Nat} (h : WellFormed t) (h1 : 1 ≤ rank)
      (hr : rank ≤ maxArrayRank) : WellFormed (.array t rank)
  | generic {name : String} {ts : List NativeType} (hname : IsGenericName name)
      (hne : name ≠ "Nullable") (h1 : 1 ≤ ts.length) (h2 : ts.length ≤ 2)
      (h : ∀ t ∈ ts, WellFormed t) : WellFormed (.generic none name ts)
  | qualified {scope name : String} {ts : List NativeType} (hscope : IsScope scope)
      (hname : IsGenericName name) (h1 : 1 ≤ ts.length) (h2 : ts.length ≤ 2)
      (h : ∀ t ∈ ts, WellFormed t) : WellFormed (.generic (some scope) name ts)
  | enum {name : String} (hname : IsTypeName name) (members : List String) :
      WellFormed (.enum name members)
  | json : WellFormed .json
  | geometry (shape? : Option Geometry) : WellFormed (.geometry shape?)
  | named {name : String} (hname : IsTypeName name) : WellFormed (.named name)

mutual

/-- The type with every enumeration known by its name only. -/
def withoutEnums : NativeType → NativeType
  | .primitive kind => .primitive kind
  | .nullable t => .nullable (withoutEnums t)
  | .array t rank => .array (withoutEnums t) rank
  | .generic scope? name ts => .generic scope? name (withoutEnumsAll ts)
  | .enum name _ => .named name
  | .json => .json
  | .geometry shape? => .geometry shape?
  | .named name => .named name

/-- The same for every type of a list. -/
def withoutEnumsAll : List NativeType → List NativeType
  | [] => []
  | t :: ts => withoutEnums t :: withoutEnumsAll ts

end

mutual

/-- Whether no part of a type is an enumeration. -/
def enumFree : NativeType → Bool
  | .primitive _ => true
  | .nullable t => enumFree t
  | .array t _ => enumFree t
  | .generic _ _ ts => enumFreeAll ts
  | .enum _ _ => false
  | .json => true
  | .geometry _ => true
  | .named _ => true

/-- The same for every type of a list. -/
def enumFreeAll : List NativeType → Bool
  | [] => true
  | t :: ts => enumFree t && enumFreeAll ts

end

mutual

theorem withoutEnums_of_enumFree : ∀ {t : NativeType}, enumFree t = true → withoutEnums t = t
  | .primitive _, _ => rfl
  | .nullable t, h => by rw [withoutEnums, withoutEnums_of_enumFree (t := t) h]
  | .array t _, h => by rw [withoutEnums, withoutEnums_of_enumFree (t := t) h]
  | .generic _ _ ts, h => by
      rw [enumFree] at h
      rw [withoutEnums, withoutEnumsAll_of_enumFreeAll h]
  | .json, _ => rfl
  | .geometry _, _ => rfl
  | .named _, _ => rfl

theorem withoutEnumsAll_of_enumFreeAll : ∀ {ts : List NativeType}, enumFreeAll ts = true →
    withoutEnumsAll ts = ts
  | [], _ => rfl
  | t :: ts, h => by
      rw [enumFreeAll, Bool.and_eq_true] at h
      rw [withoutEnumsAll, withoutEnums_of_enumFree h.1, withoutEnumsAll_of_enumFreeAll h.2]

end

theorem length_withoutEnumsAll (ts : List NativeType) :
    (withoutEnumsAll ts).length = ts.length := by
  induction ts with
  | nil => rfl
  | cons t ts ih => rw [withoutEnumsAll, List.length_cons, List.length_cons, ih]

end SqlAtlas.NativeType
