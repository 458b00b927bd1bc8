/-
SqlAtlas.Gate.Rejection — the kinds of expressions, and why one is refused.

A rejection is a kind and a cause. The cause says what was found in the
text and does not depend on the kind, so the same text refused as a check
and as a default differs in the kind alone. `category` is the short name of
a cause, `message` the full wording.
-/

namespace SqlAtlas.Gate

/-- What an expression is used for. -/
inductive Kind where
  | view
  | check
  | default
  deriving DecidableEq, Repr

namespace Kind

/-- Every kind. -/
def all : List Kind := [view, check, default]

/-- The short name of a kind. -/
def name : Kind → String
  | view => "view"
  | check => "check"
  | default => "default"

/-- The name of a kind in messages. -/
def label : Kind → String
  | view => "view definition"
  | check => "check expression"
  | default => "default expression"

/-- The kind of exactly this short name. -/
def ofName? (text : String) : Option Kind := all.find? (fun k => k.name = text)

end Kind

/-- What was found in a refused text. -/
inductive Cause where
  | empty
  | tooLong (length limit : Nat)
  | controlCharacters
  | comment
  | noSelect
  | denied (keyword : String)
  deriving DecidableEq, Repr

/-- The category of a cause. -/
def Cause.category : Cause → String
  | empty => "empty"
  | tooLong _ _ => "too_long"
  | controlCharacters => "control_characters"
  | comment => "comment"
  | noSelect => "must_start_with_select"
  | denied _ => "dangerous_keyword"

/-- A refused expression: its kind, and the cause. -/
structure Rejection where
  kind : Kind
  cause : Cause
  deriving DecidableEq, Repr

/-- The wording of a rejection. -/
def Rejection.message (r : Rejection) : String :=
  match r.cause with
  | .empty => s!"{r.kind.label} cannot be null or empty"
  | .tooLong length limit =>
    s!"{r.kind.label} is too long: {length} characters (max {limit})"
  | .controlCharacters => s!"{r.kind.label} contains invalid control characters"
  | .comment => s!"comment not allowed in {r.kind.label}"
  | .noSelect => s!"{r.kind.label} must start with SELECT"
  | .denied keyword => s!"{r.kind.label} contains dangerous keyword '{keyword}'"

end SqlAtlas.Gate
