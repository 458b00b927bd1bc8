/-
SqlAtlas.Fault — what can be wrong with a type shape, a dialect name or a
type name, and how each fault is worded.

A fault is data: its kind tells callers what went wrong, and `Fault.message`
is the only place that words it. A name that cannot be read is reported with
the character position at which reading stopped, counted from zero, and with
the text as it was given.
-/

namespace SqlAtlas

/-- The most dimensions an array type may have. -/
def maxArrayRank : Nat := 32

/-- A type shape that must not be built. -/
inductive ShapeFault where
  | arrayRank (rank : Nat)
  | blankGenericName
  | genericArity (name : String) (count : Nat)
  deriving DecidableEq, Repr

/-- What was missing where the reading of a type name stopped. -/
inductive NameProblem where
  | noTypeName
  | openArguments
  | openRank
  | trailing
  | rankTooLarge
  deriving DecidableEq, Repr

/-- A type name that cannot be used. -/
inductive NameFault where
  | unreadable (problem : NameProblem) (position : Nat) (text : String)
  | nullableArity (count : Nat)
  | emptySqlName
  deriving DecidableEq, Repr

/-- Any fault of the type model. -/
inductive Fault where
  | shape (fault : ShapeFault)
  | unknownDialect (spelling : String)
  | typeName (fault : NameFault)
  deriving DecidableEq, Repr

/-- The wording of a shape fault. -/
def ShapeFault.message : ShapeFault → String
  | arrayRank rank => s!"array rank must be between 1 and {maxArrayRank}, got {rank}"
  | blankGenericName => "generic type name cannot be empty"
  | genericArity name count =>
    s!"generic type {name} must have one or two type arguments, got {count}"

/-- The wording of what was missing. -/
def NameProblem.message : NameProblem → String
  | noTypeName => "expected a type name"
  | openArguments => "expected ',' or '>'"
  | openRank => "expected ',' or ']'"
  | trailing => "unexpected trailing characters"
  | rankTooLarge => "array rank too large"

/-- The wording of a name fault. -/
def NameFault.message : NameFault → String
  | unreadable problem position text =>
    s!"{problem.message} at position {position} in '{text}'"
  | nullableArity count => s!"Nullable takes one type argument, got {count}"
  | emptySqlName => "sql type name cannot be empty"

/-- The wording of a fault, its kind in front. -/
def Fault.message : Fault → String
  | shape fault => s!"invalid descriptor: {fault.message}"
  | unknownDialect spelling => s!"unknown dialect: {spelling}"
  | typeName fault => s!"invalid type name: {fault.message}"

end SqlAtlas
