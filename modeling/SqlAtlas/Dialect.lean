/-
SqlAtlas.Dialect — the SQL engines the library knows, and the spellings by
which a caller may name one.

Every dialect has a list of accepted spellings, its own name among them. A
spelling is looked up without regard to the case of ASCII letters and to
blanks around it; the spellings of two dialects never meet, so the order of
the search does not matter.
-/
import SqlAtlas.Text.Ascii
import SqlAtlas.Text.Blank

namespace SqlAtlas

open Text (sameIgnoringCase trim)

/-- A family of SQL engines that share one set of type names. -/
inductive Dialect where
  | sqlServer
  | mySql
  | postgreSql
  | sqlite
  deriving DecidableEq, Repr

namespace Dialect

/-- Every dialect, in the order in which listings name them. -/
def all : List Dialect := [sqlServer, mySql, postgreSql, sqlite]

/-- The name a dialect is printed under. -/
def name : Dialect → String
  | sqlServer => "sqlserver"
  | mySql => "mysql"
  | postgreSql => "postgresql"
  | sqlite => "sqlite"

/-- The spellings that name a dialect, its own name first. -/
def aliases : Dialect → List String
  | sqlServer => ["sqlserver", "sql-server", "sql_server", "mssql", "tsql"]
  | mySql => ["mysql", "maria", "mariadb"]
  | postgreSql => ["postgresql", "postgres", "pg", "pgsql"]
  | sqlite => ["sqlite", "sqlite3"]

/-- Whether the text, trimmed, is one of the dialect's spellings. -/
def isCalled (d : Dialect) (text : List Char) : Bool :=
  d.aliases.any (fun a => sameIgnoringCase a.toList (trim text))

/-- The dialect that a text names, if it names one. -/
def ofAlias? (text : List Char) : Option Dialect := all.find? (fun d => d.isCalled text)

/-- Whether the dialect stores arrays as such. -/
def hasArrays : Dialect → Bool
  | postgreSql => true
  | _ => false

end Dialect

end SqlAtlas
