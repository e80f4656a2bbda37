import Stencil.Proofs.Outcome
import Stencil.Proofs.Value
import Stencil.Yaml

/-! # The values of documents

Objects never come from a document: the scalars have none, and a collection has those of its parts.
-/
namespace Stencil.Yaml

variable {v : Value}

section Scalars
variable {text : Text}

end Scalars

namespace Outcome
variable {α : Type} {p : α → Prop}

end Outcome

namespace Node
variable {anchors : Anchors} {build : Node → Outcome Value} {n : Node}

section Collections
variable (hbuild : ∀ n, (build n).value.Plain)
include hbuild

end Collections

end Node

end Stencil.Yaml
