import Stencil.Value

/-! # Loaders

A loader turns the text of a document into a value.  It may be any function; the one for YAML is among
them.
-/
namespace Stencil

/-- An exception, by the name of its class and its message. -/
structure Exception where
  name : Text
  message : Text
deriving DecidableEq, Repr

namespace Loader

/-- How a loader fails: it refuses the text as a document, or some other exception ends it. -/
inductive Fault
  | malformed
  | exception (e : Exception)
deriving DecidableEq, Repr

end Loader

abbrev Loader := Text → Except Loader.Fault Value

end Stencil
