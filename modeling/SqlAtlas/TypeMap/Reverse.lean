/-
SqlAtlas.TypeMap.Reverse — from a SQL type name to the native type it stands
for in a dialect.

A name is taken apart first. Array dimensions, shown by brackets or by the
notation of the catalog, are understood where the dialect has arrays; all of
them make one array type. Every way to fail has a cause of its own, so that
callers can report it.
-/
import SqlAtlas.TypeMap.Rules

namespace SqlAtlas.TypeMap

/-- Why a SQL type name stands for no native type. -/
inductive Refusal where
  | malformed
  | noArrays
  | unknown
  | tooManyDimensions
  deriving DecidableEq, Repr

/-- The element of a name and the number of its dimensions. -/
def dimensioned (dialect : Dialect) (n : SqlName) : SqlName × Nat :=
  if 0 < n.dimensions then (n.element, n.dimensions)
  else
    match catalogElement? dialect n with
    | some e => (e, 1)
    | none => (n, 0)

/-- The descriptor of the array whose element is given. -/
def arrayed (d : NativeDescriptor) (dimensions : Nat) : Except Refusal NativeDescriptor :=
  if dimensions = 0 then .ok d
  else
    match d.type.arrayOfRank dimensions with
    | .ok t => .ok (d.withType t)
    | .error _ => .error .tooManyDimensions

/-- The native type of a name that has been taken apart. -/
def ofName (dialect : Dialect) (n : SqlName) : Except Refusal NativeDescriptor :=
  let (element, dimensions) := dimensioned dialect n
  if 0 < dimensions && !dialect.hasArrays then .error .noArrays
  else
    match native dialect element with
    | none => .error .unknown
    | some d => arrayed d dimensions

/-- The native type that a text stands for. -/
def reverse (dialect : Dialect) (text : List Char) : Except Refusal NativeDescriptor :=
  match SqlName.read text with
  | none => .error .malformed
  | some n => ofName dialect n

/-- The native type that a text stands for, if there is one. -/
def reverse? (dialect : Dialect) (text : List Char) : Option NativeDescriptor :=
  (reverse dialect text).toOption

end SqlAtlas.TypeMap
