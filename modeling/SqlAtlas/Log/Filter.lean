/-
SqlAtlas.Log.Filter — which events are let through.

A filter is written as directives with commas between them. Of the directives
that cover an event one decides: the one with the longest target, of those
one that asks for a field, and of two that ask for the same the later one. An
event that no directive covers is not let through.
-/
import SqlAtlas.Log.Directive

namespace SqlAtlas.Log

open Text (pieces)

/-! ## 1. Precedence -/

/-- Whether the first of two field tests gives way to the second: to any if
there is none, otherwise to one with the same name or a later one in the
order of code points. -/
def FieldTest.yieldsTo : Option FieldTest → Option FieldTest → Bool
  | none, _ => true
  | some _, none => false
  | some s, some t => !(t.name < s.name)

/-- Whether directive `b` gives way to a later directive `d` that covers the
same event. -/
def Directive.yieldsTo (b d : Directive) : Bool :=
  if b.target.length = d.target.length then
    FieldTest.yieldsTo b.brackets.field? d.brackets.field?
  else b.target.length < d.target.length

/-! ## 2. Filters -/

/-- Directives, in the order in which they were written. -/
structure Filter where
  directives : List Directive
  deriving DecidableEq, Repr

namespace Filter

/-- The filter that lets errors through. -/
def errorsOnly : Filter := ⟨[⟨[], .none, Level.error.rank⟩]⟩

/-- Reads a filter. Empty directives are passed over; a text without any
directive lets errors through. -/
def read (text : List Char) : Option Filter :=
  match (pieces (· = ',') text).filter (fun p => !p.isEmpty) with
  | [] => some errorsOnly
  | p :: ps => ((p :: ps).mapM Directive.read).map Filter.mk

/-- The better of two directives that cover an event, the later one second. -/
def closer (best : Option Directive) (d : Directive) : Option Directive :=
  match best with
  | none => some d
  | some b => if b.yieldsTo d then some d else some b

/-- The directive that decides about an event. -/
def directiveFor? (f : Filter) (e : Event) : Option Directive :=
  (f.directives.filter (·.covers e)).foldl closer none

/-- Whether an event is let through. -/
def admits (f : Filter) (e : Event) : Bool :=
  match f.directiveFor? e with
  | none => false
  | some d => e.level.rank ≤ d.threshold

end Filter

end SqlAtlas.Log
