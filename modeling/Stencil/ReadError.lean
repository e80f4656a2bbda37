import Stencil.Text.Quoted

/-! # Read errors

What can be wrong with a candidate that is read against a template, and how it is reported.  A
report starts with one primary line; the context, if it is known, adds a line for the template and
one for the candidate.
-/
namespace Stencil

/-- What a report shows beside its primary line. -/
structure Surroundings where
  template : Option Text
  candidate : Option Text
  excerptLength : Int
deriving DecidableEq, Repr

namespace Surroundings

def defaultLength : Int := 40

/-- The text, cut off with three points if it is longer than the excerpt length. -/
def excerpt (c : Surroundings) (text : Text) : Text :=
  if text.length ≤ c.excerptLength then text else text.takeTo c.excerptLength ++ "...".toList

def templateLine (template : Text) : Text := "  template: ".toList ++ template.quote

def candidateLine (c : Surroundings) (offset : Option Int) (candidate : Text) : Text :=
  match offset with
  | none => "  candidate: ".toList ++ (c.excerpt candidate).quote
  | some o =>
    "  candidate at offset ".toList ++ Text.ofInt o ++ ": ".toList ++
      (c.excerpt (candidate.dropTo o)).quote

def lines (c : Surroundings) (offset : Option Int) : List Text :=
  (c.template.map templateLine).toList ++ (c.candidate.map (c.candidateLine offset)).toList

/-- Where a failure at an offset of the candidate stands; empty if nothing is known. -/
def describe (c : Surroundings) (offset : Option Int) : Text :=
  ['\n'].intercalate (c.lines offset)

end Surroundings

/-- The candidate deviates from the template at a block. -/
structure Deviation where
  expected : Text
  actual : Text
  position : Int
  offset : Int
  isPattern : Bool
  atEnd : Bool
deriving DecidableEq, Repr

/-- A target was read at more than one block. -/
structure Repetition where
  target : Text
  index : Int
  positions : List Int
  values : List Text
deriving DecidableEq, Repr

inductive ReadFault
  | badFormat (d : Deviation)
  | tooMany (r : Repetition)
  | other (message : Text)
deriving DecidableEq, Repr

structure ReadError where
  fault : ReadFault
  surroundings : Option Surroundings
deriving DecidableEq, Repr

def Deviation.message (d : Deviation) : Text :=
  (if d.isPattern then "Expected text matching pattern ".toList else "Expected ".toList) ++
    d.expected.quote ++
    (if d.atEnd then " at end of template".toList else " at position ".toList ++ Text.ofInt d.position) ++
    " (offset ".toList ++ Text.ofInt d.offset ++ "), got ".toList ++ d.actual.quote

def Repetition.message (r : Repetition) : Text :=
  "Target ".toList ++ r.target.quote ++ " was read ".toList ++ Text.ofNat r.values.length ++
    " times at positions ".toList ++ Text.bracketed (r.positions.map Text.ofInt) ++ ": ".toList ++
    Text.bracketed (r.values.map Text.quote)

namespace ReadError

def headline (e : ReadError) : Text :=
  match e.fault with
  | .badFormat d => d.message
  | .tooMany r => r.message
  | .other message => message

/-- The offset of the candidate that the context line shows. -/
def offset (e : ReadError) : Option Int :=
  match e.fault with
  | .badFormat d => some d.offset
  | _ => none

def message (e : ReadError) : Text :=
  let description := (e.surroundings.map (·.describe e.offset)).getD []
  if description.isEmpty then e.headline else e.headline ++ '\n' :: description

end ReadError
end Stencil
