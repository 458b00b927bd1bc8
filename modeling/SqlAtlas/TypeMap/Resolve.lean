/-
SqlAtlas.TypeMap.Resolve — the SQL type of a descriptor when the caller has
pinned types.

A type pinned for the dialect is used as it is written, whatever the
descriptor says, as long as it is safe to splice. An unsafe one is ignored.
The sizes of a pinned type are read off its arguments: two numbers are
precision and scale, one is a length.
-/
import SqlAtlas.Overrides
import SqlAtlas.SqlName.Safe
import SqlAtlas.TypeMap.Forward

namespace SqlAtlas.TypeMap

/-- The sizes that a name shows, put on a type. -/
def sizedBy (n : SqlName) (t : SqlType) : SqlType :=
  match n.precisionScale?, n.length? with
  | some (precision, some scale), _ => t.withPrecisionScale precision scale
  | _, some length => t.withLength length
  | _, none => t

/-- The type of a pinned text. -/
def pinnedType (text : List Char) : Option SqlType :=
  match SqlType.ofName text with
  | .error _ => none
  | .ok t =>
    match SqlName.read text with
    | some n => some (sizedBy n t)
    | none => some t

/-- The type of a pinned text that is safe to splice. -/
def usablePin (text : String) : Option SqlType :=
  if SqlName.isSafe text.toList then pinnedType text.toList else none

/-- Whether a type is pinned for the dialect and cannot be used. -/
def ignoresPin (dialect : Dialect) (overrides : Overrides) : Bool :=
  match overrides.get? dialect with
  | some text => usablePin text = none
  | none => false

/-- The SQL type of a descriptor, the pinned type first. -/
def resolve (dialect : Dialect) (d : NativeDescriptor) (overrides : Overrides) : Option SqlType :=
  ((overrides.get? dialect).bind usablePin).or (forward dialect d)

end SqlAtlas.TypeMap
