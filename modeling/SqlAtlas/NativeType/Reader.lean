/-
SqlAtlas.NativeType.Reader — reading a canonical name back.

The reader takes one token at a time. It keeps the generic types that are
still open, innermost first, and a phase that says what it has read of the
current type: nothing, a path, a whole type, or a type and part of its array
brackets. `step` is one token, `finish` the end of the text, and `read` a
whole text. The first token that fits nowhere ends the reading.

Enumerations have no spelling of their own and come back as named types.
-/
import SqlAtlas.NativeType.Name
import SqlAtlas.NativeType.Token

namespace SqlAtlas.NativeType

/-! ## 1. Types by path -/

/-- The type that a path names without arguments: a scalar, a marker, a
geometry shape, or a type known by name only. -/
def ofPath (path : String) : NativeType :=
  match Primitive.ofName? path with
  | some p => primitive p
  | none =>
    if path = "Json" then json
    else if path = "Geometry" then geometry none
    else
      match Geometry.ofExactName? path with
      | some g => geometry (some g)
      | none => named path

/-- Splits a path at its last dot. -/
def splitLastDot : List Char → Option (List Char × List Char)
  | [] => none
  | c :: r =>
    match splitLastDot r with
    | some (scope, name) => some (c :: scope, name)
    | none => if c = '.' then some ([], r) else none

/-- The type that a path names with arguments. `Nullable` takes one and wraps
it; any other path is a generic type, its last part the name and the rest
the scope. -/
def ofApplied (path : List Char) (arguments : List NativeType) : Except Fault NativeType :=
  if path = "Nullable".toList then
    match arguments with
    | [t] => .ok t.asNullable
    | _ => .error (.typeName (.nullableArity arguments.length))
  else
    match splitLastDot path with
    | some (scope, name) =>
      (genericOf (some (String.ofList scope)) (String.ofList name) arguments).mapError .shape
    | none => (genericOf none (String.ofList path) arguments).mapError .shape

/-! ## 2. The reader -/

/-- A generic type whose arguments are being read: its path, and the
arguments so far in their order. -/
structure Opened where
  path : List Char
  arguments : List NativeType
  deriving DecidableEq, Repr

/-- What has been read of the current type. -/
inductive Phase where
  | awaiting
  | named (path : List Char)
  | typed (type : NativeType)
  | ranked (type : NativeType) (rank : Nat)
  deriving DecidableEq, Repr

/-- The state of the reader. -/
structure Reading where
  opened : List Opened
  phase : Phase
  deriving DecidableEq, Repr

/-- Before the first token. -/
def Reading.start : Reading := ⟨[], .awaiting⟩

/-- Why a token ended the reading: something else was expected before it, or
behind it, or what it completed must not be built. -/
inductive Stop where
  | before (problem : NameProblem)
  | behind (problem : NameProblem)
  | because (fault : Fault)
  deriving DecidableEq, Repr

/-- A path that neither begins nor ends with a dot. -/
def isSoundPath (path : List Char) : Bool := path.head? ≠ some '.' && path.getLast? ≠ some '.'

/-- The greatest rank that is counted at all. -/
def greatestRank : Nat := 255

/-- The array type at the end of a bracket group. -/
def closeRank (t : NativeType) (rank : Nat) : Except Stop NativeType :=
  if rank ≤ greatestRank then (arrayOfRank t rank).mapError (fun f => .because (.shape f))
  else .error (.behind .rankTooLarge)

/-- One token behind a whole type. -/
def stepTyped (opened : List Opened) (t : NativeType) (token : Token) : Except Stop Reading :=
  if token = .mark '[' then .ok ⟨opened, .ranked t 1⟩
  else
    match opened with
    | [] => .error (.before .trailing)
    | o :: rest =>
      if token = .mark ',' then
        .ok ⟨{ o with arguments := o.arguments ++ [t] } :: rest, .awaiting⟩
      else if token = .mark '>' then
        match ofApplied o.path (o.arguments ++ [t]) with
        | .ok u => .ok ⟨rest, .typed u⟩
        | .error fault => .error (.because fault)
      else .error (.before .openArguments)

/-- One token. -/
def step (s : Reading) (token : Token) : Except Stop Reading :=
  match s.phase with
  | .awaiting =>
    match token with
    | .path p =>
      if isSoundPath p then .ok ⟨s.opened, .named p⟩ else .error (.behind .noTypeName)
    | .mark _ => .error (.before .noTypeName)
  | .named p =>
    if token = .mark '<' then .ok ⟨⟨p, []⟩ :: s.opened, .awaiting⟩
    else stepTyped s.opened (ofPath (String.ofList p)) token
  | .typed t => stepTyped s.opened t token
  | .ranked t rank =>
    if token = .mark ',' then .ok ⟨s.opened, .ranked t (rank + 1)⟩
    else if token = .mark ']' then
      match closeRank t rank with
      | .ok u => .ok ⟨s.opened, .typed u⟩
      | .error stop => .error stop
    else .error (.before .openRank)

/-- The end of the text behind a whole type. -/
def finishTyped (opened : List Opened) (t : NativeType) : Except NameProblem NativeType :=
  match opened with
  | [] => .ok t
  | _ :: _ => .error .openArguments

/-- The end of the text. -/
def finish (s : Reading) : Except NameProblem NativeType :=
  match s.phase with
  | .awaiting => .error .noTypeName
  | .named p => finishTyped s.opened (ofPath (String.ofList p))
  | .typed t => finishTyped s.opened t
  | .ranked _ _ => .error .openRank

/-! ## 3. Whole texts -/

/-- The fault of a text in which a token ended the reading. -/
def Stop.toFault (stop : Stop) (l : Lexeme) (text : List Char) : Fault :=
  match stop with
  | .before problem => .typeName (.unreadable problem l.start (String.ofList text))
  | .behind problem => .typeName (.unreadable problem l.stop (String.ofList text))
  | .because fault => fault

/-- Reads on from a state. `text` is the whole text, for the fault. -/
def read (text : List Char) (s : Reading) : List Lexeme → Except Fault NativeType
  | [] =>
    match finish s with
    | .ok t => .ok t
    | .error problem => .error (.typeName (.unreadable problem text.length (String.ofList text)))
  | l :: rest =>
    match step s l.token with
    | .ok s' => read text s' rest
    | .error stop => .error (stop.toFault l text)

/-- The type that a text names. -/
def ofName (text : List Char) : Except Fault NativeType :=
  read text .start (lexemes 0 text)

end SqlAtlas.NativeType
