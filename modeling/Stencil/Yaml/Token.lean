import Stencil.Yaml.Fault

/-! # Tokens of documents

Block collections are opened and closed by tokens of their own, which come from the indentation, and
a key is marked in front of it, also where only the colon behind it tells that it is one.
-/
namespace Stencil.Yaml

inductive Directive
  | version (major : Nat)
  | tag (handle expansion : Text)
  | other
deriving DecidableEq, Repr

inductive Token
  | directive (d : Directive)
  | documentStart
  | documentEnd
  | blockSequenceStart
  | blockMappingStart
  | blockEnd
  | flowSequenceStart
  | flowSequenceEnd
  | flowMappingStart
  | flowMappingEnd
  | blockEntry
  | flowEntry
  | key
  | value
  | alias (name : Text)
  | anchor (name : Text)
  | tag (handle : Option Text) (suffix : Text)
  | scalar (text : Text) (plain : Bool)
  | garbled (g : Text.Garbled)
deriving DecidableEq, Repr

/-- The tokens of a text, and the fault that breaks them off, if there is one. -/
structure Tokens where
  list : List Token
  broken : Option Fault
deriving DecidableEq, Repr

end Stencil.Yaml
