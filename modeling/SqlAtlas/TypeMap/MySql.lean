/-
SqlAtlas.TypeMap.MySql — the type names of MySQL and its relatives.

Integers come with and without a sign. The words `unsigned`, `signed` and
`zerofill` may stand before or behind a display width and in any number:
they are taken out of a name before the rest is looked up. There are no
arrays; collections are kept as JSON.
-/
import SqlAtlas.TypeMap.Sized

namespace SqlAtlas.TypeMap.MySql

open Text (unwords words)

/-- The longest text or byte buffer of fixed length. -/
def fixedLimit : UInt32 := 255

/-- The longest bounded text of variable length: four bytes for each
character have to fit into a row. -/
def textLimit : UInt32 := 16383

/-- The longest bounded byte buffer of variable length. -/
def binaryLimit : UInt32 := 65535

/-! ## 1. From native types -/

/-- Text of a length. -/
def text (length : Length) (unicode fixed : Bool) : SqlType :=
  match length with
  | .bounded width =>
    if fixed && width ≤ fixedLimit then
      ((ofWidth "char" width).withFixed true).withUnicode unicode
    else if width ≤ textLimit then (ofWidth "varchar" width).withUnicode unicode
    else ((spelled "longtext" []).withLength .max).withUnicode unicode
  | .max => ((spelled "longtext" []).withLength .max).withUnicode unicode

/-- The byte buffer. -/
def binary (d : NativeDescriptor) : SqlType :=
  match d.length with
  | some (.bounded width) =>
    if d.fixed && width ≤ fixedLimit then (ofWidth "binary" width).withFixed true
    else if width ≤ binaryLimit then ofWidth "varbinary" width
    else (spelled "longblob" []).withLength .max
  | _ => (spelled "longblob" []).withLength .max

/-- A scalar type. -/
def primitive (kind : Primitive) (d : NativeDescriptor) : SqlType :=
  match kind with
  | .boolean => spelled "tinyint" ["1"]
  | .uint8 => spelled "tinyint unsigned" []
  | .int8 => spelled "tinyint" []
  | .int16 => spelled "smallint" []
  | .uint16 => spelled "smallint unsigned" []
  | .int32 => spelled "int" []
  | .uint32 => spelled "int unsigned" []
  | .int64 => spelled "bigint" []
  | .uint64 => spelled "bigint unsigned" []
  | .float32 => spelled "float" []
  | .float64 => spelled "double" []
  | .decimal => decimal "decimal" d
  | .char => text (.bounded 1) d.unicode true
  | .string => text (textLength d) d.unicode d.fixed
  | .uuid => text (.bounded uuidWidth) false true
  | .date => spelled "date" []
  | .time => spelled "time" []
  | .dateTime => spelled "datetime" []
  | .dateTimeTz => spelled "timestamp" []
  | .duration => spelled "time" []

/-- Serialized JSON. -/
def jsonText (_unicode : Bool) : SqlType := spelled "json" []

/-- Geometry, of one shape or of any. -/
def geometry : Option Geometry → SqlType
  | some g => spelled g.columnType []
  | none => spelled "geometry" []

/-! ## 2. To native types -/

/-- A word that says how an integer is shown or signed, and not which type it
is. -/
def isAttribute (word : List Char) : Bool :=
  word = "unsigned".toList || word = "signed".toList || word = "zerofill".toList

/-- Whether a name says that its integers have no sign. -/
def isUnsigned (n : SqlName) : Bool := (words n.key.toList).contains "unsigned".toList

/-- The words of a name without its attributes. -/
def bareKey (n : SqlName) : String :=
  String.ofList (unwords ((words n.key.toList).filter (fun w => !isAttribute w)))

/-- An integer with or without a sign. -/
def integer (n : SqlName) (signed unsigned : Primitive) : Option NativeDescriptor :=
  some (.ofPrimitive (if isUnsigned n then unsigned else signed))

/-- The shortest integer. Shown in one digit and signed, it is a truth
value. -/
def tinyInteger (n : SqlName) : Option NativeDescriptor :=
  if !isUnsigned n && n.arguments = ["1"] then some (.ofPrimitive .boolean)
  else integer n .int8 .uint8

/-- A single bit is a truth value; longer bit fields stand for nothing. -/
def bit (n : SqlName) : Option NativeDescriptor :=
  if n.arguments = [] || n.arguments = ["1"] then some (.ofPrimitive .boolean) else none

/-- Text of fixed length: of the length of an identifier it is one, and of
length one or without a length a character. -/
def readFixedText (n : SqlName) : Option NativeDescriptor :=
  if n.length? = some (.bounded uuidWidth) then some (.ofPrimitive .uuid)
  else if n.arguments = [] || n.length? = some (.bounded 1) then some (.ofPrimitive .char)
  else readText n true true

/-- The byte buffer that a name stands for. Its length must be bounded. -/
def readBoundedBytes (n : SqlName) (fixed : Bool) : Option NativeDescriptor :=
  if n.length? = some .max then none else readBytes n fixed

/-- The native type of a name without dimensions. -/
def native (n : SqlName) : Option NativeDescriptor :=
  match bareKey n with
  | "tinyint" => tinyInteger n
  | "bool" => some (.ofPrimitive .boolean)
  | "boolean" => some (.ofPrimitive .boolean)
  | "bit" => bit n
  | "smallint" => integer n .int16 .uint16
  | "mediumint" => integer n .int32 .uint32
  | "int" => integer n .int32 .uint32
  | "integer" => integer n .int32 .uint32
  | "bigint" => integer n .int64 .uint64
  | "year" => some (.ofPrimitive .int16)
  | "float" => some (.ofPrimitive .float32)
  | "double" => some (.ofPrimitive .float64)
  | "double precision" => some (.ofPrimitive .float64)
  | "real" => some (.ofPrimitive .float64)
  | "decimal" => readDecimal n
  | "numeric" => readDecimal n
  | "dec" => readDecimal n
  | "fixed" => readDecimal n
  | "char" => readFixedText n
  | "varchar" => readText n true false
  | "tinytext" => some ((NativeDescriptor.ofPrimitive .string).withLength (.bounded 255))
  | "text" => some longText
  | "mediumtext" => some longText
  | "longtext" => some longText
  | "binary" => readBoundedBytes n true
  | "varbinary" => readBoundedBytes n false
  | "tinyblob" => some longBytes
  | "blob" => some longBytes
  | "mediumblob" => some longBytes
  | "longblob" => some longBytes
  | "date" => some (.ofPrimitive .date)
  | "time" => some (.ofPrimitive .time)
  | "datetime" => some (.ofPrimitive .dateTime)
  | "timestamp" => some (.ofPrimitive .dateTimeTz)
  | "json" => some (.ofType .json)
  | "geometry" => some (.ofType (.geometry none))
  | "geomcollection" => some (.ofType (.geometry (some .geometryCollection)))
  | key => readShape key

end SqlAtlas.TypeMap.MySql
