/-
SqlAtlas.TypeMap.Sqlite — the type names of SQLite.

SQLite takes any declared name and stores values by the name's affinity. So
the names going out are the conventional ones, and a name coming back that
is not known as such is judged by the markers it holds. Numeric affinity,
which says nothing about the type, stands for nothing.
-/
import SqlAtlas.Text.Ascii
import SqlAtlas.TypeMap.Sized

namespace SqlAtlas.TypeMap.Sqlite

open Text (contains lowerAscii)

/-! ## 1. From native types -/

/-- Text of a length. -/
def text (length : Length) (unicode fixed : Bool) : SqlType :=
  match length with
  | .bounded width =>
    ((ofWidth (if fixed then "char" else "varchar") width).withFixed fixed).withUnicode unicode
  | .max => ((spelled "text" []).withLength .max).withUnicode unicode

/-- The byte buffer, which has no bounded form. -/
def binary (_d : NativeDescriptor) : SqlType := (spelled "blob" []).withLength .max

/-- A scalar type. -/
def primitive (kind : Primitive) (d : NativeDescriptor) : SqlType :=
  match kind with
  | .boolean => spelled "integer" []
  | .uint8 => spelled "integer" []
  | .int8 => spelled "integer" []
  | .int16 => spelled "integer" []
  | .uint16 => spelled "integer" []
  | .int32 => spelled "integer" []
  | .uint32 => spelled "integer" []
  | .int64 => spelled "integer" []
  | .uint64 => ofDigits "decimal" 20 0
  | .float32 => spelled "real" []
  | .float64 => spelled "real" []
  | .decimal => decimal "decimal" d
  | .char => text (.bounded 1) d.unicode true
  | .string => text (textLength d) d.unicode d.fixed
  | .uuid => text (.bounded uuidWidth) false true
  | .date => spelled "date" []
  | .time => spelled "time" []
  | .dateTime => spelled "datetime" []
  | .dateTimeTz => spelled "timestamptz" []
  | .duration => spelled "time" []

/-- Serialized JSON. -/
def jsonText (unicode : Bool) : SqlType := text .max unicode false

/-- Geometry, of one shape or of any. -/
def geometry : Option Geometry → SqlType
  | some g => spelled g.columnType []
  | none => spelled "geometry" []

/-! ## 2. To native types -/

/-- Whether a name holds one of the markers, in any letter case. -/
def holdsAny (key : String) (markers : List String) : Bool :=
  markers.any (fun m => contains m.toList (lowerAscii key.toList))

/-- The native type of a column affinity, judged by the markers of a name.
The first that is found decides. -/
def affinity (key : String) : Option NativeDescriptor :=
  if holdsAny key ["int"] then some (.ofPrimitive .int64)
  else if holdsAny key ["char", "clob", "text"] then some longText
  else if holdsAny key ["blob"] then some longBytes
  else if holdsAny key ["real", "floa", "doub"] then some (.ofPrimitive .float64)
  else none

/-- Text of fixed length: of the length of an identifier it is one, and of
length one a character. -/
def readFixedText (n : SqlName) : Option NativeDescriptor :=
  if n.length? = some (.bounded uuidWidth) then some (.ofPrimitive .uuid)
  else if n.length? = some (.bounded 1) then some (.ofPrimitive .char)
  else readText n true true

/-- The native type of a conventional name. -/
def conventional (n : SqlName) : Option NativeDescriptor :=
  match n.key with
  | "bool" => some (.ofPrimitive .boolean)
  | "boolean" => some (.ofPrimitive .boolean)
  | "tinyint" => some (.ofPrimitive .int8)
  | "smallint" => some (.ofPrimitive .int16)
  | "int2" => some (.ofPrimitive .int16)
  | "int" => some (.ofPrimitive .int32)
  | "mediumint" => some (.ofPrimitive .int32)
  | "integer" => some (.ofPrimitive .int64)
  | "bigint" => some (.ofPrimitive .int64)
  | "int8" => some (.ofPrimitive .int64)
  | "real" => some (.ofPrimitive .float64)
  | "double" => some (.ofPrimitive .float64)
  | "double precision" => some (.ofPrimitive .float64)
  | "float" => some (.ofPrimitive .float64)
  | "decimal" => readDecimal n
  | "numeric" => readDecimal n
  | "char" => readFixedText n
  | "character" => readFixedText n
  | "nchar" => readFixedText n
  | "varchar" => readText n true false
  | "nvarchar" => readText n true false
  | "varying character" => readText n true false
  | "native character" => readText n true false
  | "text" => some longText
  | "clob" => some longText
  | "blob" => some longBytes
  | "date" => some (.ofPrimitive .date)
  | "time" => some (.ofPrimitive .time)
  | "datetime" => some (.ofPrimitive .dateTime)
  | "timestamp" => some (.ofPrimitive .dateTime)
  | "timestamptz" => some (.ofPrimitive .dateTimeTz)
  | "uuid" => some (.ofPrimitive .uuid)
  | "guid" => some (.ofPrimitive .uuid)
  | "json" => some (.ofType .json)
  | "geometry" => some (readGeometry n)
  | key => readShape key

/-- The native type of a name without dimensions. -/
def native (n : SqlName) : Option NativeDescriptor := (conventional n).or (affinity n.key)

end SqlAtlas.TypeMap.Sqlite
