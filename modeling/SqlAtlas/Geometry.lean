/-
SqlAtlas.Geometry — the spatial shapes a geometry column may be limited to.

A shape is found by its name without regard to case and outer blanks, so
that SQL spellings such as `POINT` are understood; inside a canonical type
name the exact spelling counts.
-/
import SqlAtlas.Text.Ascii
import SqlAtlas.Text.Blank

namespace SqlAtlas

open Text (sameIgnoringCase trim)

/-- A spatial shape. -/
inductive Geometry where
  | point
  | lineString
  | polygon
  | multiPoint
  | multiLineString
  | multiPolygon
  | geometryCollection
  deriving DecidableEq, Repr

namespace Geometry

/-- Every shape, in the order in which listings name them. -/
def all : List Geometry :=
  [point, lineString, polygon, multiPoint, multiLineString, multiPolygon, geometryCollection]

/-- The name of a shape within a type name. -/
def name : Geometry → String
  | point => "Point"
  | lineString => "LineString"
  | polygon => "Polygon"
  | multiPoint => "MultiPoint"
  | multiLineString => "MultiLineString"
  | multiPolygon => "MultiPolygon"
  | geometryCollection => "GeometryCollection"

/-- The shape of exactly this name. -/
def ofExactName? (text : String) : Option Geometry := all.find? (fun g => g.name = text)

/-- The shape that a text names in any letter case, blanks around it or
not. -/
def ofName? (text : List Char) : Option Geometry :=
  all.find? (fun g => sameIgnoringCase g.name.toList (trim text))

/-- The spelling of a shape in data that other programs read. -/
def tag : Geometry → String
  | point => "point"
  | lineString => "line_string"
  | polygon => "polygon"
  | multiPoint => "multi_point"
  | multiLineString => "multi_line_string"
  | multiPolygon => "multi_polygon"
  | geometryCollection => "geometry_collection"

/-- The shape of exactly this spelling in data. -/
def ofTag? (text : String) : Option Geometry := all.find? (fun g => g.tag = text)

/-- The SQL spelling of a shape as a column type of its own. -/
def columnType : Geometry → String
  | point => "point"
  | lineString => "linestring"
  | polygon => "polygon"
  | multiPoint => "multipoint"
  | multiLineString => "multilinestring"
  | multiPolygon => "multipolygon"
  | geometryCollection => "geometrycollection"

end Geometry

end SqlAtlas
