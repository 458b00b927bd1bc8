/-
SqlAtlas.Gate.DenyRule — a keyword that no expression may hold, and where in
a text it occurs.

A keyword occurs where its characters stand in any letter case and a word
begins before them and ends behind them. A prefix asks for the beginning
only. Letters are compared by simple case folding: besides the ASCII pairs,
the Kelvin sign counts as a K and the long s as an S.
-/
import SqlAtlas.Text.WordChar

namespace SqlAtlas.Gate

open Text (isWordChar)

/-! ## 1. Letters and word boundaries -/

/-- The common form of a character and of those that differ from it in case
only, as far as the ASCII letters are concerned. -/
def fold (c : Char) : Char :=
  if c = '\u212A' then 'k' else if c = '\u017F' then 's' else c.toLower

/-- Whether the keyword given first stands at the beginning of the text, in
any case. -/
def beginsWith : List Char → List Char → Bool
  | [], _ => true
  | _ :: _, [] => false
  | k :: ks, c :: cs => fold k = fold c && beginsWith ks cs

/-- Whether there is a word character. -/
def isWordAt : Option Char → Bool
  | some c => isWordChar c
  | none => false

/-- Whether a word begins or ends between two neighbours. The ends of a text
have no neighbour. -/
def isBoundary (before after : Option Char) : Bool := isWordAt before != isWordAt after

/-! ## 2. Rules -/

/-- How a denied keyword has to stand in a text: as a whole word, or at the
beginning of one. -/
inductive Extent where
  | word
  | wordStart
  deriving DecidableEq, Repr

/-- A denied keyword. -/
structure DenyRule where
  keyword : String
  extent : Extent
  deriving DecidableEq, Repr

namespace DenyRule

/-- Whether a word begins or ends behind the first `n` characters. -/
def boundaryBehind (n : Nat) (text : List Char) : Bool :=
  isBoundary (text.take n).getLast? (text.drop n).head?

/-- Whether the keyword stands at the beginning of `text`, which comes right
behind the character `before`. -/
def occursHere (rule : DenyRule) (before : Option Char) (text : List Char) : Bool :=
  beginsWith rule.keyword.toList text && isBoundary before text.head? &&
    match rule.extent with
    | .word => boundaryBehind rule.keyword.length text
    | .wordStart => true

/-- Whether the keyword occurs in `text`, which comes right behind the
character `before`. -/
def occursBehind (rule : DenyRule) (before : Option Char) : List Char → Bool
  | [] => rule.occursHere before []
  | c :: r => rule.occursHere before (c :: r) || rule.occursBehind (some c) r

/-- Whether the keyword occurs in a text. -/
def occursIn (rule : DenyRule) (text : List Char) : Bool := rule.occursBehind none text

end DenyRule

end SqlAtlas.Gate
