/-
SqlAtlas.Sizing — the sizes and flags that go with a type on either side of
a type map: length, precision, scale, unicode text, fixed length.

A scale means something only together with a precision: `scale?` is what a
reader of the sizing sees, whatever is stored.
-/
import SqlAtlas.Length

namespace SqlAtlas

/-- Sizes and flags of a type. -/
structure Sizing where
  length : Option Length
  precision : Option UInt16
  scale : Option UInt16
  unicode : Bool
  fixed : Bool
  deriving DecidableEq, Repr

namespace Sizing

/-- No sizes and variable length. -/
def unsized (unicode : Bool) : Sizing := ⟨none, none, none, unicode, false⟩

/-- The scale, where there is a precision. -/
def scale? (s : Sizing) : Option UInt16 :=
  match s.precision with
  | some _ => s.scale
  | none => none

/-- Sets the precision and clears the scale. -/
def setPrecision (s : Sizing) (precision : UInt16) : Sizing :=
  { s with precision := some precision, scale := none }

/-- Sets precision and scale. -/
def setPrecisionScale (s : Sizing) (precision scale : UInt16) : Sizing :=
  { s with precision := some precision, scale := some scale }

end Sizing

end SqlAtlas
