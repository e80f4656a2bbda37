import Stencil.Regex.CharTest

/-! # Expression trees

The form in which an expression is matched.  Flags no longer occur: they have gone into the tests
and anchors.
-/
namespace Stencil.Regex

/-- The order in which a repetition tries its counts: the most first, the fewest first, or only the
most. -/
inductive Mode
  | greedy
  | lazy
  | possessive
deriving DecidableEq, Repr

inductive Anchor
  | textStart
  | textEnd
  | lineStart (multiline : Bool)
  | lineEnd (multiline : Bool)
  | boundary (negated ascii : Bool)
deriving DecidableEq, Repr

/-- The least and the greatest length of what a tree matches. -/
structure Width where
  low : Nat
  high : Nat
deriving DecidableEq, Repr

namespace Width

/-- Lengths are not told apart from here on; an unlimited one counts as this. -/
def unlimited : Nat := Nat.pow 2 64

def zero : Width := ⟨0, 0⟩

def one : Width := ⟨1, 1⟩

def add (a b : Width) : Width := ⟨a.low + b.low, a.high + b.high⟩

def either (a b : Width) : Width := ⟨min a.low b.low, max a.high b.high⟩

def capped (a : Width) : Width := ⟨min a.low unlimited, min a.high unlimited⟩

def times (a : Width) (min : Nat) (max : Option Nat) : Width :=
  ⟨a.low * min, match max with
    | some k => a.high * k
    | .none => if a.high = 0 then 0 else unlimited⟩

end Width

inductive Tree
  | empty
  | char (test : CharTest)
  | anchor (a : Anchor)
  | cat (first second : Tree)
  | alt (first second : Tree)
  | capture (group : Nat) (body : Tree)
  | atomic (body : Tree)
  | ahead (negated : Bool) (body : Tree)
  | behind (negated : Bool) (width : Width) (body : Tree)
  | sameAs (group : Nat) (folding : Folding)
  | ifCaptured (group : Nat) (yes no : Tree)
  | chars (test : CharTest) (min : Nat) (max : Option Nat) (mode : Mode)
  | loop (body : Tree) (min : Nat) (max : Option Nat) (mode : Mode)
deriving DecidableEq, Repr

namespace Tree

def ofList : List Tree → Tree
  | [] => empty
  | [t] => t
  | t :: rest => cat t (ofList rest)

def settle : Tree → Tree
  | char test => char test.settle
  | cat a b => cat a.settle b.settle
  | alt a b => alt a.settle b.settle
  | capture i t => capture i t.settle
  | atomic t => atomic t.settle
  | ahead negated t => ahead negated t.settle
  | behind negated width t => behind negated width t.settle
  | ifCaptured i a b => ifCaptured i a.settle b.settle
  | chars test min max mode => chars test.settle min max mode
  | loop t min max mode => loop t.settle min max mode
  | t => t

end Tree
end Stencil.Regex
