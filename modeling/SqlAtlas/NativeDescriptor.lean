/-
SqlAtlas.NativeDescriptor — a native type together with the sizes a caller
asks for.

Text is unicode and of variable length unless a caller says otherwise. A
bounded length of zero is no usable size: setting it clears the length.
-/
import SqlAtlas.NativeType
import SqlAtlas.Sizing

namespace SqlAtlas

/-- A native type and its sizes. -/
structure NativeDescriptor extends Sizing where
  type : NativeType
  deriving DecidableEq, Repr

namespace NativeDescriptor

/-- The descriptor of a type without any sizes. -/
def ofType (type : NativeType) : NativeDescriptor := ⟨Sizing.unsized true, type⟩

/-- The descriptor of a scalar type without any sizes. -/
def ofPrimitive (kind : Primitive) : NativeDescriptor := ofType (.primitive kind)

/-- The same sizes on another type. -/
def withType (d : NativeDescriptor) (type : NativeType) : NativeDescriptor :=
  { d with type := type }

/-- A length as a size: the bounded length zero is none. -/
def usable? : Length → Option Length
  | .bounded width => if width = 0 then none else some (.bounded width)
  | .max => some .max

/-- Sets the length. The bounded length zero clears it. -/
def withLength (d : NativeDescriptor) (length : Length) : NativeDescriptor :=
  { d with length := usable? length }

/-- Sets the widest length. -/
def withMaxLength (d : NativeDescriptor) : NativeDescriptor := d.withLength .max

/-- Sets the precision and clears the scale. -/
def withPrecision (d : NativeDescriptor) (precision : UInt16) : NativeDescriptor :=
  { d with toSizing := d.toSizing.setPrecision precision }

/-- Sets precision and scale. -/
def withPrecisionScale (d : NativeDescriptor) (precision scale : UInt16) : NativeDescriptor :=
  { d with toSizing := d.toSizing.setPrecisionScale precision scale }

/-- Sets whether text is unicode. -/
def withUnicode (d : NativeDescriptor) (unicode : Bool) : NativeDescriptor :=
  { d with unicode := unicode }

/-- Sets whether the length is fixed. -/
def withFixed (d : NativeDescriptor) (fixed : Bool) : NativeDescriptor :=
  { d with fixed := fixed }

/-- The descriptor with the nullables at the top of its type removed. -/
def stripNullable (d : NativeDescriptor) : NativeDescriptor := d.withType d.type.stripNullable

end NativeDescriptor

end SqlAtlas
