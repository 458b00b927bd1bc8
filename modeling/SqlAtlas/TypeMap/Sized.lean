/-
SqlAtlas.TypeMap.Sized — what the type maps of all dialects share: the sizes
taken when none are asked for, SQL types whose names show their sizes, and
the native types that such names stand for.

Going out, a size that is shown is also reported, so the name and the
sizing of a SQL type never disagree. Coming back, a name without arguments
has no sizes, and a name whose arguments are no sizes stands for nothing.
-/
import SqlAtlas.NativeDescriptor
import SqlAtlas.SqlName

namespace SqlAtlas.TypeMap

/-! ## 1. Default sizes -/

/-- The length of text when none is asked for. -/
def defaultTextLength : Length := .bounded 255

/-- The least length of an enumeration column when none is asked for. -/
def defaultEnumWidth : UInt32 := 128

/-- The length of an identifier in its usual written form. -/
def uuidWidth : UInt32 := 36

/-- The precision of decimal numbers when none is asked for. -/
def defaultPrecision : UInt16 := 16

/-- The scale of decimal numbers when no precision is asked for. -/
def defaultScale : UInt16 := 4

/-! ## 2. SQL types by name -/

/-- The unsized SQL type of a base and its arguments. -/
def spelled (base : String) (arguments : List String) : SqlType :=
  .plain (SqlName.spell base arguments 0)

/-- The SQL type of a base that shows a width. -/
def ofWidth (base : String) (width : UInt32) : SqlType :=
  (spelled base [toString width.toNat]).withLength (.bounded width)

/-- The SQL type of a base that shows precision and scale. -/
def ofDigits (base : String) (precision scale : UInt16) : SqlType :=
  (spelled base [toString precision.toNat, toString scale.toNat]).withPrecisionScale
    precision scale

/-- Decimal numbers as the descriptor asks for them: with its precision, and
its scale or zero. -/
def decimal (base : String) (d : NativeDescriptor) : SqlType :=
  match d.precision with
  | some precision => ofDigits base precision (d.scale?.getD 0)
  | none => ofDigits base defaultPrecision defaultScale

/-- The length of text that the descriptor asks for. -/
def textLength (d : NativeDescriptor) : Length := d.length.getD defaultTextLength

/-! ## 3. Native types by name -/

/-- The element of a stored array. -/
inductive ArrayLeaf where
  | primitive (kind : Primitive)
  | bytes
  deriving DecidableEq, Repr

/-- The decimal numbers that a name stands for. A precision alone has the
scale zero. -/
def readDecimal (n : SqlName) : Option NativeDescriptor :=
  match n.precisionScale? with
  | some (precision, some scale) =>
    some ((NativeDescriptor.ofPrimitive .decimal).withPrecisionScale precision scale)
  | some (precision, none) =>
    some ((NativeDescriptor.ofPrimitive .decimal).withPrecisionScale precision 0)
  | none => if n.arguments = [] then some (.ofPrimitive .decimal) else none

/-- A descriptor with the length that a name shows. -/
def readLength (n : SqlName) (d : NativeDescriptor) : Option NativeDescriptor :=
  if n.arguments = [] then some d else n.length?.map d.withLength

/-- The text that a name stands for. -/
def readText (n : SqlName) (unicode fixed : Bool) : Option NativeDescriptor :=
  readLength n (((NativeDescriptor.ofPrimitive .string).withUnicode unicode).withFixed fixed)

/-- The byte buffer that a name stands for. -/
def readBytes (n : SqlName) (fixed : Bool) : Option NativeDescriptor :=
  readLength n ((NativeDescriptor.ofType .bytes).withFixed fixed)

/-- The geometry that a name stands for. The first argument may name its
shape. -/
def readGeometry (n : SqlName) : NativeDescriptor :=
  .ofType (.geometry (n.arguments.head?.bind (fun a => Geometry.ofName? a.toList)))

/-- Geometry of the shape that a name spells. -/
def readShape (key : String) : Option NativeDescriptor :=
  (Geometry.ofName? key.toList).map (fun g => .ofType (.geometry (some g)))

/-- Text of the widest length. -/
def longText : NativeDescriptor := (NativeDescriptor.ofPrimitive .string).withMaxLength

/-- The byte buffer of the widest length. -/
def longBytes : NativeDescriptor := (NativeDescriptor.ofType .bytes).withMaxLength

/-- The floating-point number that a name stands for: up to 24 bits of
precision make the shorter one. -/
def readFloat (n : SqlName) : NativeDescriptor :=
  match n.precisionScale? with
  | some (bits, none) =>
    if bits ≤ 24 then .ofPrimitive .float32 else .ofPrimitive .float64
  | _ => .ofPrimitive .float64

end SqlAtlas.TypeMap
