/-
SqlAtlas.TypeMap.SqlServer — the type names of SQL Server.

Text and bytes take a bounded length up to a limit and the `max` form beyond
it; unicode text has half the limit and an `n` in front of its name. There
are no arrays, no JSON type and no geometry shapes. Coming back, any word
behind the parameter list makes a name unknown.
-/
import SqlAtlas.TypeMap.Sized

namespace SqlAtlas.TypeMap.SqlServer

/-- The longest bounded unicode text. -/
def unicodeLimit : UInt32 := 4000

/-- The longest bounded text of single bytes, and the longest bounded byte
buffer. -/
def byteLimit : UInt32 := 8000

/-! ## 1. From native types -/

/-- The longest bounded text. -/
def textLimit (unicode : Bool) : UInt32 := if unicode then unicodeLimit else byteLimit

/-- The name of a text type. -/
def textBase (unicode fixed : Bool) : String :=
  match unicode, fixed with
  | true, true => "nchar"
  | true, false => "nvarchar"
  | false, true => "char"
  | false, false => "varchar"

/-- Text of the widest length. -/
def widestText (unicode : Bool) : SqlType :=
  ((spelled (textBase unicode false) ["max"]).withLength .max).withUnicode unicode

/-- Text of a length. -/
def text (length : Length) (unicode fixed : Bool) : SqlType :=
  match length with
  | .bounded width =>
    if width ≤ textLimit unicode then
      ((ofWidth (textBase unicode fixed) width).withFixed fixed).withUnicode unicode
    else widestText unicode
  | .max => widestText unicode

/-- The byte buffer of the widest length. -/
def widestBinary : SqlType := (spelled "varbinary" ["max"]).withLength .max

/-- The byte buffer. -/
def binary (d : NativeDescriptor) : SqlType :=
  match d.length with
  | some (.bounded width) =>
    if width ≤ byteLimit then
      (ofWidth (if d.fixed then "binary" else "varbinary") width).withFixed d.fixed
    else widestBinary
  | _ => widestBinary

/-- A scalar type. -/
def primitive (kind : Primitive) (d : NativeDescriptor) : SqlType :=
  match kind with
  | .boolean => spelled "bit" []
  | .uint8 => spelled "tinyint" []
  | .int8 => spelled "smallint" []
  | .int16 => spelled "smallint" []
  | .uint16 => spelled "int" []
  | .int32 => spelled "int" []
  | .uint32 => spelled "bigint" []
  | .int64 => spelled "bigint" []
  | .uint64 => ofDigits "decimal" 20 0
  | .float32 => spelled "real" []
  | .float64 => spelled "float" []
  | .decimal => decimal "decimal" d
  | .char => text (.bounded 1) d.unicode true
  | .string => text (textLength d) d.unicode d.fixed
  | .uuid => spelled "uniqueidentifier" []
  | .date => spelled "date" []
  | .time => spelled "time" []
  | .dateTime => spelled "datetime2" []
  | .dateTimeTz => spelled "datetimeoffset" []
  | .duration => spelled "time" []

/-- Serialized JSON. -/
def jsonText (unicode : Bool) : SqlType := text .max unicode false

/-- Geometry of any shape. -/
def geometry (_shape? : Option Geometry) : SqlType := spelled "geometry" []

/-! ## 2. To native types -/

/-- Text of fixed length: of length one, or without a length, it is a
character. -/
def readFixedText (n : SqlName) (unicode : Bool) : Option NativeDescriptor :=
  if n.arguments = [] || n.length? = some (.bounded 1) then
    some ((NativeDescriptor.ofPrimitive .char).withUnicode unicode)
  else readText n unicode true

/-- The native type of a base name. -/
def ofBase (n : SqlName) : Option NativeDescriptor :=
  match n.base with
  | "bit" => some (.ofPrimitive .boolean)
  | "tinyint" => some (.ofPrimitive .uint8)
  | "smallint" => some (.ofPrimitive .int16)
  | "int" => some (.ofPrimitive .int32)
  | "integer" => some (.ofPrimitive .int32)
  | "bigint" => some (.ofPrimitive .int64)
  | "real" => some (.ofPrimitive .float32)
  | "float" => some (readFloat n)
  | "decimal" => readDecimal n
  | "numeric" => readDecimal n
  | "dec" => readDecimal n
  | "money" => some ((NativeDescriptor.ofPrimitive .decimal).withPrecisionScale 19 4)
  | "smallmoney" => some ((NativeDescriptor.ofPrimitive .decimal).withPrecisionScale 10 4)
  | "char" => readFixedText n false
  | "nchar" => readFixedText n true
  | "varchar" => readText n false false
  | "nvarchar" => readText n true false
  | "sysname" => some ((NativeDescriptor.ofPrimitive .string).withLength (.bounded 128))
  | "text" => some (longText.withUnicode false)
  | "ntext" => some longText
  | "uniqueidentifier" => some (.ofPrimitive .uuid)
  | "date" => some (.ofPrimitive .date)
  | "time" => some (.ofPrimitive .time)
  | "datetime" => some (.ofPrimitive .dateTime)
  | "datetime2" => some (.ofPrimitive .dateTime)
  | "smalldatetime" => some (.ofPrimitive .dateTime)
  | "datetimeoffset" => some (.ofPrimitive .dateTimeTz)
  | "binary" => readBytes n true
  | "varbinary" => readBytes n false
  | "image" => some longBytes
  | "geometry" => some (readGeometry n)
  | "geography" => some (readGeometry n)
  | _ => none

/-- The native type of a name without dimensions. -/
def native (n : SqlName) : Option NativeDescriptor :=
  if n.modifiers = "" then ofBase n else none

end SqlAtlas.TypeMap.SqlServer
