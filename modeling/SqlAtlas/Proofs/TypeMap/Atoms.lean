/-
SqlAtlas.Proofs.TypeMap.Atoms — columns of scalars, of JSON and of geometry,
and what they come back as.

The name of such a column reads back by the sizes that the column reports,
where it shows sizes (`takesSizes`), and otherwise by the type that the
dialect keeps in it (`storedAs`). `reverse?_primitive` says so for every
scalar in every dialect, whatever sizes are asked for.

`storedAs` is where a dialect has fewer types than there are scalars. It only
ever moves to a wider type, with one exception: a duration is kept as a time
of day wherever there are no intervals.
-/
import SqlAtlas.Proofs.NativeDescriptor.Built
import SqlAtlas.Proofs.TypeMap.Columns
import SqlAtlas.TypeMap.Forward

namespace SqlAtlas.TypeMap

/-! ## 1. Scalars -/

/-- The scalar type that a column for another one stands for. -/
def storedAs : Dialect → Primitive → Primitive
  | .sqlServer, .int8 => .int16
  | .sqlServer, .uint16 => .int32
  | .sqlServer, .uint32 => .int64
  | .sqlServer, .uint64 => .decimal
  | .sqlServer, .duration => .time
  | .mySql, .duration => .time
  | .postgreSql, .uint8 => .int16
  | .postgreSql, .int8 => .int16
  | .postgreSql, .uint16 => .int32
  | .postgreSql, .uint32 => .int64
  | .postgreSql, .uint64 => .decimal
  | .sqlite, .boolean => .int64
  | .sqlite, .uint8 => .int64
  | .sqlite, .int8 => .int64
  | .sqlite, .int16 => .int64
  | .sqlite, .uint16 => .int64
  | .sqlite, .int32 => .int64
  | .sqlite, .uint32 => .int64
  | .sqlite, .uint64 => .decimal
  | .sqlite, .float32 => .float64
  | .sqlite, .duration => .time
  | _, kind => kind

/-- Whether the column of a scalar depends on the sizes that are asked for. -/
def takesSizes : Primitive → Bool
  | .decimal => true
  | .char => true
  | .string => true
  | _ => false

/-- The descriptor that the column of a scalar comes back as, by the sizes that
the column reports. -/
def ofScalarSizes (dialect : Dialect) (kind : Primitive) (s : Sizing) : NativeDescriptor :=
  if kind = .char ∨ kind = .string then ofTextSizes dialect s
  else if storedAs dialect kind = .decimal then ofDigitSizes s
  else .ofPrimitive (storedAs dialect kind)

/-- A scalar that takes no sizes has one column in each dialect. -/
theorem primitive_of_unsized (dialect : Dialect) {kind : Primitive} (h : takesSizes kind = false)
    (d e : NativeDescriptor) : primitive dialect kind d = primitive dialect kind e := by
  cases kind <;> cases h <;> cases dialect <;> rfl

theorem primitive_decimal (dialect : Dialect) (d : NativeDescriptor) :
    ∃ precision scale, primitive dialect .decimal d
      = ofDigits (decimalBase dialect) precision scale := by
  cases h : d.precision with
  | none =>
      refine ⟨defaultPrecision, defaultScale, ?_⟩
      cases dialect <;>
        simp [primitive, SqlServer.primitive, MySql.primitive, PostgreSql.primitive,
          Sqlite.primitive, decimal, decimalBase, h]
  | some precision =>
      refine ⟨precision, d.scale?.getD 0, ?_⟩
      cases dialect <;>
        simp [primitive, SqlServer.primitive, MySql.primitive, PostgreSql.primitive,
          Sqlite.primitive, decimal, decimalBase, h]

theorem primitive_char (dialect : Dialect) (d : NativeDescriptor) :
    primitive dialect .char d = text dialect (.bounded 1) d.unicode true := by
  cases dialect <;> rfl

theorem primitive_string (dialect : Dialect) (d : NativeDescriptor) :
    primitive dialect .string d = text dialect (textLength d) d.unicode d.fixed := by
  cases dialect <;> rfl

theorem reverse?_unsized (dialect : Dialect) (kind : Primitive) (h : takesSizes kind = false) :
    reverse? dialect (primitive dialect kind (.ofPrimitive kind)).name.toList
      = some (ofScalarSizes dialect kind
          (primitive dialect kind (.ofPrimitive kind)).toSizing) := by
  revert h
  cases dialect <;> cases kind <;> decide +kernel

theorem textLength_ne_zero {d : NativeDescriptor} (hd : d.length ≠ some (.bounded 0)) :
    textLength d ≠ .bounded 0 := by
  cases h : d.length with
  | none => simp [textLength, h, defaultTextLength]
  | some length =>
      simp only [textLength, h, Option.getD_some]
      exact fun h0 => hd (by rw [h, h0])

/-- **Scalars come back by their sizes.** -/
theorem reverse?_primitive (dialect : Dialect) (kind : Primitive) {d : NativeDescriptor}
    (hd : d.length ≠ some (.bounded 0)) :
    reverse? dialect (primitive dialect kind d).name.toList
      = some (ofScalarSizes dialect kind (primitive dialect kind d).toSizing) := by
  cases h : takesSizes kind with
  | false =>
      rw [primitive_of_unsized dialect h d (.ofPrimitive kind)]
      exact reverse?_unsized dialect kind h
  | true =>
      cases kind <;> cases h
      case decimal.refl =>
        obtain ⟨precision, scale, hp⟩ := primitive_decimal dialect d
        rw [hp, reverse?_ofDigits]
        cases dialect <;> rfl
      case char.refl =>
        rw [primitive_char, reverse?_text dialect (by decide)]
        rfl
      case string.refl =>
        rw [primitive_string, reverse?_text dialect (textLength_ne_zero hd)]
        rfl

/-! ## 2. Markers -/

/-- Whether the dialect keeps JSON values as text. -/
def keepsJsonAsText : Dialect → Bool
  | .sqlServer => true
  | .sqlite => true
  | _ => false

/-- The descriptor that a column of JSON values comes back as. -/
def ofJsonSizes (dialect : Dialect) (s : Sizing) : NativeDescriptor :=
  if keepsJsonAsText dialect then ofTextSizes dialect s else .ofType .json

/-- JSON values come back as text where they are kept as text. -/
theorem reverse?_jsonText (dialect : Dialect) (unicode : Bool) :
    reverse? dialect (jsonText dialect unicode).name.toList
      = some (ofJsonSizes dialect (jsonText dialect unicode).toSizing) := by
  cases dialect <;> cases unicode <;> decide +kernel

/-- The shape that a column of geometry keeps. -/
def storedShape (dialect : Dialect) (shape? : Option Geometry) : Option Geometry :=
  if dialect = .sqlServer then none else shape?

/-- Geometry comes back as geometry, of its shape where shapes are kept. -/
theorem reverse?_geometry (dialect : Dialect) (shape? : Option Geometry) :
    reverse? dialect (geometry dialect shape?).name.toList
      = some (.ofType (.geometry (storedShape dialect shape?))) := by
  cases shape? with
  | none => cases dialect <;> decide +kernel
  | some g => cases dialect <;> cases g <;> decide +kernel

end SqlAtlas.TypeMap
