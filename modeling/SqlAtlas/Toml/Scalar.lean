/-
SqlAtlas.Toml.Scalar — the values of a TOML document that are written
without quotes or brackets: truth values, whole numbers, fractions, dates
and times.

Only truth values and whole numbers are kept. Of the others it matters that
they are well formed.
-/
import SqlAtlas.Config.Setting
import SqlAtlas.Text.Numeral
import SqlAtlas.Toml.Text

namespace SqlAtlas.Toml

open Config (Setting)
open Text (pieces readDigits)

/-! ## 1. Numbers -/

/-- Digits without the underscores that may stand between them. -/
def digits? (isDigit : Char → Bool) (s : List Char) : Option (List Char) :=
  if (pieces (· = '_') s).all (fun p => !p.isEmpty && p.all isDigit) then
    some (s.filter (· ≠ '_'))
  else none

/-- The digits of a whole number: no zero leads another digit. -/
def wholeDigits? (s : List Char) : Option (List Char) :=
  match digits? Char.isDigit s with
  | some ['0'] => some ['0']
  | some ('0' :: _) => none
  | d => d

/-- A text without its sign, and whether the sign is a minus. -/
def unsigned : List Char → Bool × List Char
  | '-' :: r => (true, r)
  | '+' :: r => (false, r)
  | s => (false, s)

/-- The value of digits in a base. -/
def valueIn (base : Nat) (digits : List Char) : Option Nat :=
  (digits.mapM hexValue?).bind fun values =>
    if values.all (· < base) then some (values.foldl (fun n v => base * n + v) 0) else none

/-- A number whose base its prefix names. -/
def prefixed? : List Char → Option Int
  | '0' :: 'x' :: r => based 16 r
  | '0' :: 'o' :: r => based 8 r
  | '0' :: 'b' :: r => based 2 r
  | _ => none
where
  /-- The value of digits with underscores between them. -/
  based (base : Nat) (s : List Char) : Option Int :=
    ((digits? (fun c => (hexValue? c).isSome) s).bind (valueIn base)).map Int.ofNat

/-- A decimal number. -/
def decimal? (s : List Char) : Option Int :=
  let (negative, r) := unsigned s
  ((wholeDigits? r).bind readDigits).map fun n => if negative then -(n : Int) else n

/-- Whether a number fits into 64 bits, one of them the sign. -/
def fits (n : Int) : Bool := -0x8000000000000000 ≤ n && n ≤ 0x7FFFFFFFFFFFFFFF

/-- A whole number. -/
def integer? (s : List Char) : Option Int := ((prefixed? s).or (decimal? s)).filter fits

/-- Whether a text is the part of a fraction behind its `e`. -/
def isExponent (s : List Char) : Bool := (digits? Char.isDigit (unsigned s).2).isSome

/-- Whether a text is the part of a fraction before its `e`, with a point or
without. -/
def isMantissa (pointed : Bool) (s : List Char) : Bool :=
  match s.dropWhile (· ≠ '.') with
  | _ :: places => pointed && (wholeDigits? (s.takeWhile (· ≠ '.'))).isSome &&
      (digits? Char.isDigit places).isSome
  | [] => !pointed && (wholeDigits? s).isSome

/-- Whether a text is a fraction: a number with a point, an exponent or both,
or one of the words for what is no number. -/
def isFraction (s : List Char) : Bool :=
  let r := (unsigned s).2
  let mantissa := r.takeWhile (fun c => c ≠ 'e' && c ≠ 'E')
  if r = "inf".toList || r = "nan".toList then true
  else
    match r.drop mantissa.length with
    | [] => isMantissa true mantissa
    | _ :: exponent =>
      (isMantissa true mantissa || isMantissa false mantissa) && isExponent exponent

/-! ## 2. Dates and times -/

/-- A number of exactly `n` digits between two bounds. -/
def isNumber (n lo hi : Nat) (s : List Char) : Bool :=
  s.length = n &&
    match readDigits s with
    | some v => lo ≤ v && v ≤ hi
    | none => false

/-- The number of days of a month. -/
def daysOf (year month : Nat) : Nat :=
  if month = 2 then
    if year % 4 = 0 && (year % 100 ≠ 0 || year % 400 = 0) then 29 else 28
  else if month = 4 || month = 6 || month = 9 || month = 11 then 30
  else 31

/-- Whether a text is a date. -/
def isDate (s : List Char) : Bool :=
  match pieces (· = '-') s with
  | [year, month, day] =>
    isNumber 4 0 9999 year && isNumber 2 1 12 month &&
      isNumber 2 1 (daysOf ((readDigits year).getD 0) ((readDigits month).getD 0)) day
  | _ => false

/-- Whether a text is the seconds of a time, with places or without. -/
def isSeconds (s : List Char) : Bool :=
  isNumber 2 0 60 (s.takeWhile (· ≠ '.')) &&
    match s.dropWhile (· ≠ '.') with
    | [] => true
    | _ :: places => (readDigits places).isSome

/-- Whether a text is a time of day. -/
def isTime (s : List Char) : Bool :=
  match pieces (· = ':') s with
  | [hour, minute, second] => isNumber 2 0 23 hour && isNumber 2 0 59 minute && isSeconds second
  | _ => false

/-- Whether a text is an offset from universal time. -/
def isOffset (s : List Char) : Bool :=
  match pieces (· = ':') s with
  | [hour, minute] => isNumber 2 0 23 hour && isNumber 2 0 59 minute
  | _ => false

/-- Whether a text is a time of day, with an offset or without. -/
def isOffsetTime (s : List Char) : Bool :=
  let time := s.takeWhile (fun c => c.isDigit || c = ':' || c = '.')
  isTime time &&
    match s.drop time.length with
    | [] => true
    | c :: r =>
      ((c = 'Z' || c = 'z') && r.isEmpty) || ((c = '+' || c = '-') && isOffset r)

/-- Whether a text is a date, a time, or both. -/
def isDateTime (s : List Char) : Bool :=
  isDate s || isTime s ||
    match s.drop 10 with
    | c :: time => isDate (s.take 10) && (c = 'T' || c = 't' || c = ' ') && isOffsetTime time
    | [] => false

/-! ## 3. Scalars -/

/-- A character of a scalar. -/
def isScalarChar (c : Char) : Bool :=
  c.isAlphanum || c = '+' || c = '-' || c = '.' || c = ':' || c = '_'

/-- The scalar that a text is. -/
def ofScalar? (s : List Char) : Option Setting :=
  if s = "true".toList then some (.flag true)
  else if s = "false".toList then some (.flag false)
  else
    match integer? s with
    | some n => some (.whole n)
    | none => if isFraction s || isDateTime s then some .other else none

/-- Whether a time follows behind a date and one space. -/
def hasTimeBehind : List Char → Bool
  | ' ' :: c :: _ => c.isDigit
  | _ => false

/-- The characters of the scalar that stands here. A date may have its time
behind a space. -/
def scalarRun (s : List Char) : List Char :=
  let run := s.takeWhile isScalarChar
  let rest := s.drop run.length
  if isDate run && hasTimeBehind rest then
    run ++ rest.take 1 ++ (rest.drop 1).takeWhile isScalarChar
  else run

/-- Reads a scalar. -/
def scalar : Reader Setting := do
  let s ← get
  let run := scalarRun s
  match ofScalar? run with
  | some v => set (s.drop run.length); return v
  | none => failure

end SqlAtlas.Toml
