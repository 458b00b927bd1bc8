/-
SqlAtlas.Json.Encode — the types of this library as JSON values.

A native type is an object with its kind and, beside it, what the kind
needs. Descriptors show every size, null where there is none. Optional parts
of a native type are written as null, except that the JSON marker has no
shape at all.
-/
import SqlAtlas.Json
import SqlAtlas.NativeDescriptor
import SqlAtlas.Overrides
import SqlAtlas.SqlType

namespace SqlAtlas

open Json (nat object optional str)

/-- A length: its width, or the word for the widest form. -/
def Length.toJson : Length → Json
  | bounded width => object [("bounded", nat width.toNat)]
  | max => str "max"

namespace NativeType

/-- A kind together with what it needs. -/
def tagged (kind : String) (content : Json) : Json := object [("kind", str kind), ("type", content)]

mutual

/-- A native type as an object. -/
def toJson : NativeType → Json
  | primitive p => tagged "primitive" (str p.tag)
  | nullable t => tagged "nullable" t.toJson
  | array t rank => tagged "array" (object [("element", t.toJson), ("rank", nat rank)])
  | generic scope? name ts =>
    tagged "generic" (object
      [("namespace", optional str scope?), ("name", str name), ("arguments", .arr (toJsonAll ts))])
  | enum name members =>
    tagged "enum" (object [("name", str name), ("members", .arr (members.map str))])
  | json => tagged "domain" (object [("domain", str "json")])
  | geometry g =>
    tagged "domain" (object
      [("domain", str "geometry"), ("geometry", optional (fun g => str g.tag) g)])
  | named name => tagged "named" (str name)

/-- Native types as objects. -/
def toJsonAll : List NativeType → List Json
  | [] => []
  | t :: ts => t.toJson :: toJsonAll ts

end

end NativeType

/-- The sizes and flags of a descriptor as members of its object. -/
def Sizing.members (s : Sizing) : List (String × Json) :=
  [("length", optional Length.toJson s.length),
   ("precision", optional (fun p => nat p.toNat) s.precision),
   ("scale", optional (fun p => nat p.toNat) s.scale),
   ("is_unicode", .bool s.unicode),
   ("is_fixed_length", .bool s.fixed)]

/-- A native descriptor as an object. -/
def NativeDescriptor.toJson (d : NativeDescriptor) : Json :=
  object (("native_type", d.type.toJson) :: d.toSizing.members)

/-- A SQL type as an object. -/
def SqlType.toJson (t : SqlType) : Json :=
  object (("sql_type_name", str t.name) :: ("base_type_name", str t.baseName) :: t.toSizing.members)

/-- Overrides as an object from dialect names to pinned types. -/
def Overrides.toJson (o : Overrides) : Json :=
  object (o.toList.map (fun p => (p.1.name, str p.2)))

end SqlAtlas
