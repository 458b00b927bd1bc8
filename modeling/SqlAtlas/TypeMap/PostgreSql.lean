/-
SqlAtlas.TypeMap.PostgreSql — the type names of PostgreSQL, the only dialect
with arrays of its own.

An array shows one pair of brackets for each dimension behind the name of
its element. The catalog writes an array of one dimension with an underscore
in front of its element instead; `catalogElement?` takes that apart.
-/
import SqlAtlas.TypeMap.Sized

namespace SqlAtlas.TypeMap.PostgreSql

/-- The longest bounded text. -/
def textLimit : UInt32 := 10485760

/-! ## 1. From native types -/

/-- Text of the widest length. -/
def widestText (unicode : Bool) : SqlType :=
  ((spelled "text" []).withLength .max).withUnicode unicode

/-- Text of a length. -/
def text (length : Length) (unicode fixed : Bool) : SqlType :=
  match length with
  | .bounded width =>
    if width ≤ textLimit then
      ((ofWidth (if fixed then "char" else "varchar") width).withFixed fixed).withUnicode unicode
    else widestText unicode
  | .max => widestText unicode

/-- The byte buffer, which has no bounded form. -/
def binary (_d : NativeDescriptor) : SqlType := (spelled "bytea" []).withLength .max

/-- A scalar type. -/
def primitive (kind : Primitive) (d : NativeDescriptor) : SqlType :=
  match kind with
  | .boolean => spelled "boolean" []
  | .uint8 => spelled "smallint" []
  | .int8 => spelled "smallint" []
  | .int16 => spelled "smallint" []
  | .uint16 => spelled "integer" []
  | .int32 => spelled "integer" []
  | .uint32 => spelled "bigint" []
  | .int64 => spelled "bigint" []
  | .uint64 => ofDigits "numeric" 20 0
  | .float32 => spelled "real" []
  | .float64 => spelled "double precision" []
  | .decimal => decimal "numeric" d
  | .char => text (.bounded 1) d.unicode true
  | .string => text (textLength d) d.unicode d.fixed
  | .uuid => spelled "uuid" []
  | .date => spelled "date" []
  | .time => spelled "time" []
  | .dateTime => spelled "timestamp" []
  | .dateTimeTz => spelled "timestamptz" []
  | .duration => spelled "interval" []

/-- Serialized JSON. -/
def jsonText (_unicode : Bool) : SqlType := spelled "jsonb" []

/-- Geometry, of one shape or of any. -/
def geometry : Option Geometry → SqlType
  | some g => spelled "geometry" [g.name]
  | none => spelled "geometry" []

/-- The element of an array. Text without a length and decimal numbers
without a precision take their unlimited forms here. -/
def element (leaf : ArrayLeaf) (d : NativeDescriptor) : SqlType :=
  match leaf with
  | .bytes => binary d
  | .primitive .string =>
    match d.length with
    | some length => text length d.unicode d.fixed
    | none => text .max d.unicode false
  | .primitive .decimal =>
    if d.precision = none then spelled "numeric" [] else primitive .decimal d
  | .primitive kind => primitive kind d

/-- The array of `dimensions` dimensions, and of one if there are none. Its
sizes are those of its element. -/
def array (leaf : ArrayLeaf) (dimensions : Nat) (d : NativeDescriptor) : SqlType :=
  let e := element leaf d
  let name := String.ofList (e.name.toList ++ SqlName.spellDimensions (max dimensions 1))
  { SqlType.plain name with toSizing := e.toSizing }

/-! ## 2. To native types -/

/-- The element of an array in the notation of the catalog. -/
def catalogElement? (n : SqlName) : Option SqlName :=
  match n.base.toList with
  | '_' :: c :: r => some (n.withBase (String.ofList (c :: r)))
  | _ => none

/-- Text of fixed length: of length one, or without a length, it is a
character. -/
def readFixedText (n : SqlName) : Option NativeDescriptor :=
  if n.arguments = [] || n.length? = some (.bounded 1) then some (.ofPrimitive .char)
  else readText n true true

/-- The native type of a name without dimensions. -/
def native (n : SqlName) : Option NativeDescriptor :=
  match n.key with
  | "bool" => some (.ofPrimitive .boolean)
  | "boolean" => some (.ofPrimitive .boolean)
  | "int2" => some (.ofPrimitive .int16)
  | "smallint" => some (.ofPrimitive .int16)
  | "smallserial" => some (.ofPrimitive .int16)
  | "serial2" => some (.ofPrimitive .int16)
  | "int4" => some (.ofPrimitive .int32)
  | "int" => some (.ofPrimitive .int32)
  | "integer" => some (.ofPrimitive .int32)
  | "serial" => some (.ofPrimitive .int32)
  | "serial4" => some (.ofPrimitive .int32)
  | "int8" => some (.ofPrimitive .int64)
  | "bigint" => some (.ofPrimitive .int64)
  | "bigserial" => some (.ofPrimitive .int64)
  | "serial8" => some (.ofPrimitive .int64)
  | "float4" => some (.ofPrimitive .float32)
  | "real" => some (.ofPrimitive .float32)
  | "float8" => some (.ofPrimitive .float64)
  | "double precision" => some (.ofPrimitive .float64)
  | "float" => some (readFloat n)
  | "numeric" => readDecimal n
  | "decimal" => readDecimal n
  | "money" => some (.ofPrimitive .decimal)
  | "char" => readFixedText n
  | "character" => readFixedText n
  | "bpchar" => readFixedText n
  | "varchar" => readText n true false
  | "character varying" => readText n true false
  | "text" => some longText
  | "citext" => some longText
  | "uuid" => some (.ofPrimitive .uuid)
  | "date" => some (.ofPrimitive .date)
  | "time" => some (.ofPrimitive .time)
  | "time without time zone" => some (.ofPrimitive .time)
  | "timestamp" => some (.ofPrimitive .dateTime)
  | "timestamp without time zone" => some (.ofPrimitive .dateTime)
  | "timestamptz" => some (.ofPrimitive .dateTimeTz)
  | "timestamp with time zone" => some (.ofPrimitive .dateTimeTz)
  | "interval" => some (.ofPrimitive .duration)
  | "bytea" => some longBytes
  | "json" => some (.ofType .json)
  | "jsonb" => some (.ofType .json)
  | "geometry" => some (readGeometry n)
  | "geography" => some (readGeometry n)
  | _ => none

end SqlAtlas.TypeMap.PostgreSql
