import Stencil.ReadError
import Stencil.Template

/-! # Reading a filled-out template

A candidate is read in one pass from left to right.  Static text must stand where the template has
it, and the pattern of a target takes what it matches at the start of what remains; a target without
a pattern takes nothing.  Afterwards each target has the value that was read for it, and a target
that was read more than once is an error.
-/
namespace Stencil

/-- Something that matches a beginning of a text: how long a beginning, if any. -/
structure Pattern where
  source : Text
  matchLength : Text → Option Nat
  matchLength_le : ∀ {t n}, matchLength t = some n → n ≤ t.length

structure Capture where
  position : Nat
  target : Int
  value : Text
deriving DecidableEq, Repr

inductive ReadFailure
  | error (e : ReadError)
  | dangling (i : DanglingIndex)
deriving DecidableEq, Repr

inductive BlockFailure
  | deviation (d : Deviation)
  | dangling
deriving DecidableEq, Repr

structure Reader where
  template : Template
  patterns : List (Option Pattern)

namespace Reader

/-- One pattern per target: a missing one is no pattern, a surplus one is ignored. -/
def ofPatterns (template : Template) (patterns : List (Option Pattern)) : Reader :=
  ⟨template, (List.range template.targets.length).map fun i => (patterns[i]?).join⟩

/-- Read the blocks from a position on, where `rest` is what remains of the candidate from `offset`
on. -/
def readBlocks (patterns : List (Option Pattern)) (final : Text) (position offset : Nat) (rest : Text) :
    List Block → Except BlockFailure (List Capture)
  | [] =>
    if rest = final then .ok []
    else .error (.deviation ⟨final, rest, position, offset, false, true⟩)
  | b :: blocks =>
    let found := rest.take b.static.length
    if found = b.static then
      let rest := rest.drop b.static.length
      let offset := offset + b.static.length
      match getSigned? patterns b.target with
      | none => .error .dangling
      | some none => readBlocks patterns final (position + 1) offset rest blocks
      | some (some p) =>
        match p.matchLength rest with
        | none => .error (.deviation ⟨p.source, rest, position, offset, true, false⟩)
        | some n =>
          (readBlocks patterns final (position + 1) (offset + n) (rest.drop n) blocks).map
            (⟨position, b.target, rest.take n⟩ :: ·)
    else .error (.deviation ⟨b.static, found, position, offset, false, false⟩)

/-- The value of each target from index `i` on, or the first one that was read more than once. -/
def gather (captures : List Capture) (i : Nat) :
    List Text → Except Repetition (List (Option Text))
  | [] => .ok []
  | target :: targets =>
    match captures.filter fun c => c.target == (i : Int) with
    | [] => (gather captures (i + 1) targets).map (none :: ·)
    | [c] => (gather captures (i + 1) targets).map (some c.value :: ·)
    | many =>
      .error ⟨target, i, many.map fun c => (c.position : Int), many.map (·.value)⟩

def report (r : Reader) (candidate : Text) (fault : ReadFault) : ReadFailure :=
  match r.template.source with
  | .ok source => .error ⟨fault, some ⟨some source, some candidate, Surroundings.defaultLength⟩⟩
  | .error i => .dangling i

/-- The values of the targets in a candidate, `none` where nothing was read. -/
def read (r : Reader) (candidate : Text) : Except ReadFailure (List (Option Text)) :=
  match readBlocks r.patterns r.template.final 0 0 candidate r.template.blocks with
  | .error (.deviation d) => .error (r.report candidate (.badFormat d))
  | .error .dangling => .error (.dangling .target)
  | .ok captures =>
    (gather captures 0 r.template.targets).mapError fun repetition =>
      r.report candidate (.tooMany repetition)

end Reader
end Stencil
