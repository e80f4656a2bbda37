import Stencil.SignedIndex
import Stencil.Text

/-! # Templates

A template is cut into blocks, each some static text followed by a reference to a target, and the
text after the last reference.  A reference is an index into the list of targets; a negative index
counts from the end, and one beyond either end refers to nothing.
-/
namespace Stencil

structure Block where
  static : Text
  target : Int
deriving DecidableEq, Repr

structure Template where
  blocks : List Block
  final : Text
  targets : List Text
deriving DecidableEq, Repr

/-- An index that refers to nothing, by the list it was meant for. -/
inductive DanglingIndex
  | target
  | value
deriving DecidableEq, Repr

def DanglingIndex.message : DanglingIndex → Text
  | target => "tuple index out of range".toList
  | value => "list index out of range".toList

namespace Template

/-- The blocks put together again, with `fill` in the place of each reference. -/
def assemble (fill : Int → Except DanglingIndex Text) (final : Text) :
    List Block → Except DanglingIndex Text
  | [] => .ok final
  | b :: rest => do
    let value ← fill b.target
    let tail ← assemble fill final rest
    return b.static ++ value ++ tail

def source (t : Template) : Except DanglingIndex Text :=
  assemble (fun i => (getSigned? t.targets i).elim (.error .target) .ok) t.final t.blocks

/-- Fill out the template with one value per target.  A missing value is written as nothing and a
surplus one is ignored. -/
def write (t : Template) (values : List Text) : Except DanglingIndex Text :=
  assemble
    (fun i => if i < values.length then (getSigned? values i).elim (.error .value) .ok else .ok [])
    t.final t.blocks

/-- The positions of the blocks that refer to a target by the very index `i`. -/
def referencesTo (t : Template) (i : Int) : List Nat :=
  t.blocks.zipIdx.filterMap fun (b, position) => if b.target = i then some position else none

end Template
end Stencil
