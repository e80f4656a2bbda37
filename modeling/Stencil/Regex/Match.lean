import Stencil.Regex.Tree

/-! # Matching

A tree is matched from a place in a text by trying its ways in order of preference.  The rest of the
expression is a continuation: `run` tries one way after the other until the continuation accepts.
-/
namespace Stencil.Regex

/-- A place in a text: what stands before it, nearest first, and what remains. -/
structure Cursor where
  before : Text
  rest : Text
  position : Nat
deriving DecidableEq, Repr

namespace Cursor

def ofText (text : Text) : Cursor := ⟨[], text, 0⟩

/-- The place behind the next character, if that passes a test. -/
def next? (test : CharTest) (c : Cursor) : Option Cursor :=
  match c.rest with
  | [] => none
  | d :: rest => if test.holds d then some ⟨d :: c.before, rest, c.position + 1⟩ else none

def back? : Nat → Cursor → Option Cursor
  | 0, c => some c
  | n + 1, c =>
    match c.before with
    | [] => none
    | d :: before => back? n ⟨before, d :: c.rest, c.position - 1⟩

/-- The places behind none, one, two, … characters that pass a test, at most `limit` of them. -/
def reach (test : CharTest) (limit : Option Nat) (before : Text) (position : Nat) :
    Text → List Cursor
  | [] => [⟨before, [], position⟩]
  | d :: rest =>
    ⟨before, d :: rest, position⟩ ::
      if limit ≠ some 0 ∧ test.holds d then
        reach test (limit.map (· - 1)) (d :: before) (position + 1) rest
      else []

end Cursor

structure Captures where
  starts : List (Nat × Cursor)
  ends : List (Nat × Cursor)
deriving DecidableEq, Repr

namespace Captures

def empty : Captures := ⟨[], []⟩

def place (i : Nat) (c : Cursor) (places : List (Nat × Cursor)) : List (Nat × Cursor) :=
  (i, c) :: places.filter (·.1 ≠ i)

def setStart (i : Nat) (c : Cursor) (k : Captures) : Captures := ⟨place i c k.starts, k.ends⟩

def setEnd (i : Nat) (c : Cursor) (k : Captures) : Captures := ⟨k.starts, place i c k.ends⟩

/-- What a group captured, if it has both begun and ended. -/
def text? (i : Nat) (k : Captures) : Option Text :=
  match k.starts.lookup i, k.ends.lookup i with
  | some s, some e =>
    if s.position ≤ e.position then some (s.rest.take (e.position - s.position)) else .none
  | _, _ => .none

end Captures

abbrev Found := Cursor × Captures

abbrev Continuation := Cursor → Captures → Option Found

abbrev Matcher := Cursor → Captures → Continuation → Option Found

def Anchor.holds (c : Cursor) : Anchor → Bool
  | textStart => c.before.isEmpty
  | textEnd => c.rest.isEmpty
  | lineStart multiline => c.before.isEmpty || (multiline && c.before.head? == some '\n')
  | lineEnd multiline =>
    c.rest.isEmpty || (if multiline then c.rest.head? == some '\n' else c.rest == ['\n'])
  | boundary negated ascii =>
    let isWord (d : Option Char) := d.any fun d => Category.word.holds ascii d.toNat
    !(c.before.isEmpty && c.rest.isEmpty) &&
      (negated != (isWord c.before.head? != isWord c.rest.head?))

/-- The place behind a text that stands next, letter case folded. -/
def Cursor.skip? (folding : Folding) (c : Cursor) : Text → Option Cursor
  | [] => some c
  | d :: text =>
    match c.rest with
    | [] => none
    | e :: rest =>
      if folding.lower e.toNat = folding.lower d.toNat then
        skip? folding ⟨e :: c.before, rest, c.position + 1⟩ text
      else none

namespace Matcher

/-- The first way of a matcher, with no continuation. -/
def alone (m : Matcher) (c : Cursor) (k : Captures) : Option Found := m c k fun c k => some (c, k)

/-- Whether another round may follow `count` of them.  No round starts where the last one did. -/
def mayRepeat (max : Option Nat) (last : Option Nat) (count : Nat) (c : Cursor) : Bool :=
  max.all (count < ·) && last != some c.position

/-- Repetition that prefers another round.  The rounds up to `min` are forced; `fuel` bounds the
rounds that can follow. -/
def greedy (body : Matcher) (min : Nat) (max : Option Nat) :
    Nat → Nat → Option Nat → Matcher
  | 0, _, _, _, _, _ => none
  | fuel + 1, count, last, c, k, next =>
    if count < min then body c k fun c k => greedy body min max fuel (count + 1) last c k next
    else if mayRepeat max last count c then
      match body c k fun d k => greedy body min max fuel (count + 1) (some c.position) d k next with
      | some found => some found
      | none => next c k
    else next c k

def lazy (body : Matcher) (min : Nat) (max : Option Nat) :
    Nat → Nat → Option Nat → Matcher
  | 0, _, _, _, _, _ => none
  | fuel + 1, count, last, c, k, next =>
    if count < min then body c k fun c k => lazy body min max fuel (count + 1) last c k next
    else
      match next c k with
      | some found => some found
      | none =>
        if mayRepeat max last count c then
          body c k fun d k => lazy body min max fuel (count + 1) (some c.position) d k next
        else none

/-- Repetition that never gives a round back. -/
def possessive (body : Matcher) (min : Nat) (max : Option Nat) :
    Nat → Nat → Option Nat → Matcher
  | 0, _, _, _, _, _ => none
  | fuel + 1, count, last, c, k, next =>
    if count < min then
      match body.alone c k with
      | some (c, k) => possessive body min max fuel (count + 1) last c k next
      | none => none
    else if mayRepeat max last count c then
      match body.alone c k with
      | some (d, k) => possessive body min max fuel (count + 1) (some c.position) d k next
      | none => next c k
    else next c k

end Matcher

namespace Tree

def run : Tree → Matcher
  | empty => fun c k next => next c k
  | char test => fun c k next => (c.next? test).bind fun c => next c k
  | anchor a => fun c k next => if a.holds c then next c k else none
  | cat a b => fun c k next => a.run c k fun c k => b.run c k next
  | alt a b => fun c k next =>
    match a.run c k next with
    | some found => some found
    | none => b.run c k next
  | capture i t => fun c k next => t.run c (k.setStart i c) fun d k => next d (k.setEnd i d)
  | atomic t => fun c k next => (t.run.alone c k).bind fun (c, k) => next c k
  | ahead negated t => fun c k next =>
    match t.run.alone c k with
    | some (_, found) => if negated then none else next c found
    | none => if negated then next c k else none
  | behind negated width t => fun c k next =>
    match (c.back? width.low).bind fun d => t.run.alone d k with
    | some (_, found) => if negated then none else next c found
    | none => if negated then next c k else none
  | sameAs i folding => fun c k next =>
    (k.text? i).bind fun text => (c.skip? folding text).bind fun c => next c k
  | ifCaptured i a b => fun c k next =>
    if (k.text? i).isSome then a.run c k next else b.run c k next
  | chars test min max mode => fun c k next =>
    let places := (Cursor.reach test max c.before c.position c.rest).drop min
    match mode with
    | .greedy => places.reverse.findSome? fun c => next c k
    | .lazy => places.findSome? fun c => next c k
    | .possessive => places.getLast?.bind fun c => next c k
  | loop t min max mode => fun c k next =>
    let fuel := min + c.rest.length + 2
    match mode with
    | .greedy => Matcher.greedy t.run min max fuel 0 none c k next
    | .lazy => Matcher.lazy t.run min max fuel 0 none c k next
    | .possessive => Matcher.possessive t.run min max fuel 0 none c k next

end Tree
end Stencil.Regex
