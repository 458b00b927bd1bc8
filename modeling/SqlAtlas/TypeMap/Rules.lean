/-
SqlAtlas.TypeMap.Rules — the rules of each dialect under one roof.

Every rule takes the dialect as its first argument. JSON has no column type
of its own in the rules: each dialect keeps it in the type it has for
serialized JSON.
-/
import SqlAtlas.Dialect
import SqlAtlas.TypeMap.MySql
import SqlAtlas.TypeMap.PostgreSql
import SqlAtlas.TypeMap.SqlServer
import SqlAtlas.TypeMap.Sqlite

namespace SqlAtlas.TypeMap

/-! ## 1. From native types -/

/-- The SQL type of a scalar type. -/
def primitive : Dialect → Primitive → NativeDescriptor → SqlType
  | .sqlServer => SqlServer.primitive
  | .mySql => MySql.primitive
  | .postgreSql => PostgreSql.primitive
  | .sqlite => Sqlite.primitive

/-- The SQL type of the byte buffer. -/
def binary : Dialect → NativeDescriptor → SqlType
  | .sqlServer => SqlServer.binary
  | .mySql => MySql.binary
  | .postgreSql => PostgreSql.binary
  | .sqlite => Sqlite.binary

/-- The SQL type of text: its length, whether it is unicode, and whether the
length is fixed. -/
def text : Dialect → Length → Bool → Bool → SqlType
  | .sqlServer => SqlServer.text
  | .mySql => MySql.text
  | .postgreSql => PostgreSql.text
  | .sqlite => Sqlite.text

/-- The SQL type of serialized JSON, whose text is unicode or not. -/
def jsonText : Dialect → Bool → SqlType
  | .sqlServer => SqlServer.jsonText
  | .mySql => MySql.jsonText
  | .postgreSql => PostgreSql.jsonText
  | .sqlite => Sqlite.jsonText

/-- The SQL type of JSON values. -/
def json (dialect : Dialect) (d : NativeDescriptor) : SqlType := jsonText dialect d.unicode

/-- The SQL type of geometry. -/
def geometry : Dialect → Option Geometry → SqlType
  | .sqlServer => SqlServer.geometry
  | .mySql => MySql.geometry
  | .postgreSql => PostgreSql.geometry
  | .sqlite => Sqlite.geometry

/-- The SQL type of an array, in a dialect that has arrays. -/
def array? : Dialect → ArrayLeaf → Nat → NativeDescriptor → Option SqlType
  | .postgreSql, leaf, dimensions, d => some (PostgreSql.array leaf dimensions d)
  | _, _, _, _ => none

/-! ## 2. To native types -/

/-- The element of an array in catalog notation, in a dialect that has this
notation. -/
def catalogElement? : Dialect → SqlName → Option SqlName
  | .postgreSql, n => PostgreSql.catalogElement? n
  | _, _ => none

/-- The native type of a name, its dimensions left aside. -/
def native : Dialect → SqlName → Option NativeDescriptor
  | .sqlServer => SqlServer.native
  | .mySql => MySql.native
  | .postgreSql => PostgreSql.native
  | .sqlite => Sqlite.native

end SqlAtlas.TypeMap
