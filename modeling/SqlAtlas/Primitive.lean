/-
SqlAtlas.Primitive — the scalar host types, their names, the value ranges
of the integer ones, and which of them hold every value of which.

`widensTo` follows the ranges: an integer kind widens to every integer kind
whose range covers its own, and to the decimal numbers. Beyond integers the
widening pairs are listed one by one.
-/

namespace SqlAtlas

/-- A scalar host type. -/
inductive Primitive where
  | boolean
  | uint8
  | int8
  | int16
  | uint16
  | int32
  | uint32
  | int64
  | uint64
  | float32
  | float64
  | decimal
  | char
  | string
  | uuid
  | date
  | time
  | dateTime
  | dateTimeTz
  | duration
  deriving DecidableEq, Repr

namespace Primitive

/-! ## 1. Names -/

/-- Every scalar type, in the order in which listings name them. -/
def all : List Primitive :=
  [boolean, uint8, int8, int16, uint16, int32, uint32, int64, uint64, float32, float64,
   decimal, char, string, uuid, date, time, dateTime, dateTimeTz, duration]

/-- The name of a scalar type within a type name. -/
def name : Primitive → String
  | boolean => "Boolean"
  | uint8 => "UInt8"
  | int8 => "Int8"
  | int16 => "Int16"
  | uint16 => "UInt16"
  | int32 => "Int32"
  | uint32 => "UInt32"
  | int64 => "Int64"
  | uint64 => "UInt64"
  | float32 => "Float32"
  | float64 => "Float64"
  | decimal => "Decimal"
  | char => "Char"
  | string => "String"
  | uuid => "Uuid"
  | date => "Date"
  | time => "Time"
  | dateTime => "DateTime"
  | dateTimeTz => "DateTimeTz"
  | duration => "Duration"

/-- The scalar type of exactly this name. -/
def ofName? (text : String) : Option Primitive := all.find? (fun p => p.name = text)

/-- The spelling of a scalar type in data that other programs read. -/
def tag : Primitive → String
  | boolean => "boolean"
  | uint8 => "u_int8"
  | int8 => "int8"
  | int16 => "int16"
  | uint16 => "u_int16"
  | int32 => "int32"
  | uint32 => "u_int32"
  | int64 => "int64"
  | uint64 => "u_int64"
  | float32 => "float32"
  | float64 => "float64"
  | decimal => "decimal"
  | char => "char"
  | string => "string"
  | uuid => "uuid"
  | date => "date"
  | time => "time"
  | dateTime => "date_time"
  | dateTimeTz => "date_time_tz"
  | duration => "duration"

/-- The scalar type of exactly this spelling in data. -/
def ofTag? (text : String) : Option Primitive := all.find? (fun p => p.tag = text)

/-! ## 2. Ranges and widening -/

/-- The number of values that `bits` bits have. -/
def valueCount (bits : Nat) : Int := Int.ofNat (Nat.pow 2 bits)

/-- The least and the greatest value of an integer type of `bits` bits, one
of them the sign. -/
def signedRange (bits : Nat) : Int × Int := (-valueCount (bits - 1), valueCount (bits - 1) - 1)

/-- The least and the greatest value of an integer type of `bits` bits
without a sign. -/
def unsignedRange (bits : Nat) : Int × Int := (0, valueCount bits - 1)

/-- The least and the greatest value of an integer type. The truth values
count as 0 and 1. -/
def integerRange? : Primitive → Option (Int × Int)
  | boolean => some (unsignedRange 1)
  | uint8 => some (unsignedRange 8)
  | int8 => some (signedRange 8)
  | int16 => some (signedRange 16)
  | uint16 => some (unsignedRange 16)
  | int32 => some (signedRange 32)
  | uint32 => some (unsignedRange 32)
  | int64 => some (signedRange 64)
  | uint64 => some (unsignedRange 64)
  | _ => none

/-- Whether the first type is an integer type whose values all lie in the
range of the second. -/
def rangeWithin (p q : Primitive) : Bool :=
  match p.integerRange?, q.integerRange? with
  | some (lo, hi), some (lo', hi') => lo' ≤ lo && hi ≤ hi'
  | _, _ => false

/-- The widenings beyond the integers: into the longer float, from a
character to text, and from a date through date and time to date and time
with a zone. -/
def otherWidening : Primitive → Primitive → Bool
  | float32, float64 => true
  | char, string => true
  | date, dateTime => true
  | date, dateTimeTz => true
  | dateTime, dateTimeTz => true
  | _, _ => false

/-- Whether the second type holds every value of the first without loss. -/
def widensTo (p q : Primitive) : Bool :=
  p = q || (p.integerRange?.isSome && q = decimal) || rangeWithin p q || otherWidening p q

end Primitive

end SqlAtlas
