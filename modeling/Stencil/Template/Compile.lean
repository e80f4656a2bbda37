import Stencil.Occurrence
import Stencil.Template

/-! # Compiling a template

Every occurrence of every target competes for its stretch of the template.  The preferred ones win:
the foremost, then the longest, then the one whose target comes first; an occurrence that starts
inside a winner is dropped.
-/
namespace Stencil.Template

/-- An occurrence together with the index of the target that occurs. -/
abbrev Candidate := Nat × Span Nat

/-- The occurrences of all targets, in order of preference. -/
def candidates (text : Text) (targets : List Text) : List Candidate :=
  (targets.zipIdx.flatMap fun (target, i) => (Occurrence.all target text).map (i, ·)).mergeSort
    fun a b => a.2.preferred b.2

/-- Cut the text that starts at offset `here` at the candidates that start no earlier than the end of
the last winner. -/
def cut (here : Nat) (text : Text) : List Candidate → List Block × Text
  | [] => ([], text)
  | (i, s) :: rest =>
    if s.start < here then cut here text rest
    else
      let (blocks, final) := cut s.stop (text.drop (s.stop - here)) rest
      (⟨text.take (s.start - here), i⟩ :: blocks, final)

def compile (text : Text) (targets : List Text) : Template :=
  let (blocks, final) := cut 0 text (candidates text targets)
  ⟨blocks, final, targets⟩

end Stencil.Template
