import Stencil.Proofs.Definition.Limits
import Stencil.Proofs.Yaml

/-! # Loading definitions from files

What is wrong with a definition file is reported together with its path, whatever loader reads it.  Two
kinds of faults pass by the report: an exception of the loader other than that the document is malformed,
and an expression beyond a limit.
-/
namespace Stencil.Definition

/-- The entries of the mapping that a document denotes; one that is nothing at all denotes none. -/
def Denotes (loader : Loader) (text : Text) (entries : List (Value × Value)) : Prop :=
  ∃ v, loader (Text.unifyLineEnds text) = .ok v ∧
    (v = .mapping entries ∨ v.isEmpty = true ∧ entries = [])

theorem Denotes.plain {loader : Loader} {text : Text} {entries : List (Value × Value)}
    (h : Denotes loader text entries)
    (hplain : ∀ v, loader (Text.unifyLineEnds text) = .ok v → v.Plain) : (Value.mapping entries).Plain := by
  obtain ⟨v, hload, rfl | ⟨-, rfl⟩⟩ := h
  · exact hplain _ hload
  · rfl

variable {loader : Loader} {path text : Text} {contents : List UInt8} {entries : List (Value × Value)}

section Decoded
variable (hdecode : Scalar.decode contents = some text)
include hdecode

end Decoded

end Stencil.Definition
