/-
SqlAtlas.NativeType — the shapes of host-application types: scalars,
nullables, arrays, generic collections, enumerations, the JSON and geometry
markers, and types known by name only.

The constructors of `NativeType` build any tree, also one that no reader
would return. The functions of section 2 build the sound ones: they never
nest nullables, keep array ranks between 1 and `maxArrayRank`, and give a
generic type a name and one or two arguments.

`compatible` says when a value of one type survives a trip through another.
It looks through nullables at the top and at every array element, lets
scalars widen, an enumeration become text and a geometry lose its shape, and
asks for equality everywhere else.
-/
import SqlAtlas.Fault
import SqlAtlas.Geometry
import SqlAtlas.Primitive

namespace SqlAtlas

open Text (trim)

/-! ## 1. The type and its equality -/

/-- The shape of a host type. -/
inductive NativeType where
  | primitive (kind : Primitive)
  | nullable (inner : NativeType)
  | array (element : NativeType) (rank : Nat)
  | generic (scope? : Option String) (name : String) (arguments : List NativeType)
  | enum (name : String) (members : List String)
  | json
  | geometry (shape? : Option Geometry)
  | named (name : String)
  deriving Repr

namespace NativeType

mutual

/-- Whether two types are equal. -/
def same : NativeType → NativeType → Bool
  | primitive p, primitive q => p = q
  | nullable t, nullable u => same t u
  | array t m, array u n => same t u && m = n
  | generic s a ts, generic r b us => s = r && a = b && sameAll ts us
  | enum a ms, enum b ns => a = b && ms = ns
  | json, json => true
  | geometry g, geometry h => g = h
  | named a, named b => a = b
  | _, _ => false

/-- Whether two lists of types are equal, member by member. -/
def sameAll : List NativeType → List NativeType → Bool
  | [], [] => true
  | t :: ts, u :: us => same t u && sameAll ts us
  | _, _ => false

end

mutual

theorem same_refl : ∀ t : NativeType, same t t = true
  | primitive _ => by simp [same]
  | nullable t => by simp [same, same_refl t]
  | array t _ => by simp [same, same_refl t]
  | generic _ _ ts => by simp [same, sameAll_refl ts]
  | enum _ _ => by simp [same]
  | json => by simp [same]
  | geometry _ => by simp [same]
  | named _ => by simp [same]

theorem sameAll_refl : ∀ ts : List NativeType, sameAll ts ts = true
  | [] => by simp [sameAll]
  | t :: ts => by simp [sameAll, same_refl t, sameAll_refl ts]

end

mutual

theorem eq_of_same : ∀ {t u : NativeType}, same t u = true → t = u := by
  intro t u h
  -- by cases on both types: different constructors are never the same
  cases t <;> cases u <;> simp [same] at h ⊢
  case primitive.primitive => exact h
  case nullable.nullable => exact eq_of_same h
  case array.array => exact ⟨eq_of_same h.1, h.2⟩
  case generic.generic => exact ⟨h.1.1, h.1.2, eq_of_sameAll h.2⟩
  case enum.enum => exact h
  case geometry.geometry => exact h
  case named.named => exact h

theorem eq_of_sameAll : ∀ {ts us : List NativeType}, sameAll ts us = true → ts = us
  | [], [], _ => rfl
  | t :: ts, u :: us, h => by
    simp only [sameAll, Bool.and_eq_true] at h
    rw [eq_of_same h.1, eq_of_sameAll h.2]
  | [], _ :: _, h => by simp [sameAll] at h
  | _ :: _, [], h => by simp [sameAll] at h

end

/-- Comparing two types finds exactly their equality. -/
theorem same_iff {t u : NativeType} : same t u = true ↔ t = u :=
  ⟨eq_of_same, fun h => h ▸ same_refl t⟩

instance : DecidableEq NativeType := fun _ _ => decidable_of_iff _ same_iff

/-! ## 2. Sound construction -/

/-- The nullable form of a type. A nullable type is its own nullable form. -/
def asNullable : NativeType → NativeType
  | nullable t => nullable t
  | t => nullable t

/-- The array of one dimension. -/
def arrayOf (element : NativeType) : NativeType := array element 1

/-- The array of `rank` dimensions. -/
def arrayOfRank (element : NativeType) (rank : Nat) : Except ShapeFault NativeType :=
  if 1 ≤ rank ∧ rank ≤ maxArrayRank then .ok (array element rank) else .error (.arrayRank rank)

/-- The byte buffer: the array of unsigned bytes. -/
def bytes : NativeType := arrayOf (primitive .uint8)

/-- The list of elements of one type. -/
def listOf (element : NativeType) : NativeType := generic none "List" [element]

/-- The dictionary from keys of one type to values of another. -/
def dictionaryOf (key value : NativeType) : NativeType := generic none "Dictionary" [key, value]

/-- A scope without the blanks around it. A blank scope is none. -/
def cleanScope? (scope : String) : Option String :=
  if (trim scope.toList).isEmpty then none else some (String.ofList (trim scope.toList))

/-- The generic type of one or two arguments. Its name is kept as it is, and
has to hold more than blanks; this is asked before the arguments are
counted. -/
def genericOf (scope? : Option String) (name : String) (arguments : List NativeType) :
    Except ShapeFault NativeType :=
  if (trim name.toList).isEmpty then .error .blankGenericName
  else if 1 ≤ arguments.length ∧ arguments.length ≤ 2 then
    .ok (generic (scope?.bind cleanScope?) name arguments)
  else .error (.genericArity name arguments.length)

/-! ## 3. Questions about a type -/

/-- The type below all nullables at the top. -/
def stripNullable : NativeType → NativeType
  | nullable t => t.stripNullable
  | t => t

/-- Whether the type, nullables aside, is the byte buffer. -/
def isBytes (t : NativeType) : Bool := t.stripNullable = bytes

/-- The length of the longest member name of an enumeration, in
characters. -/
def longestMember (members : List String) : Nat := (members.map String.length).foldr max 0

/-- Whether a value of the first type survives a trip through the second. -/
def compatible : NativeType → NativeType → Bool
  | nullable t, u => compatible t u
  | primitive p, u =>
    match u.stripNullable with
    | primitive q => p.widensTo q
    | _ => false
  | array t m, u =>
    match u.stripNullable with
    | array v n => m = n && compatible t v
    | _ => false
  | enum a ms, u => u.stripNullable = primitive .string || u.stripNullable = enum a ms
  | geometry g, u => u.stripNullable = geometry none || u.stripNullable = geometry g
  | generic s a ts, u => u.stripNullable = generic s a ts
  | json, u => u.stripNullable = json
  | named a, u => u.stripNullable = named a

end NativeType

end SqlAtlas
