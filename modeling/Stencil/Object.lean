import Stencil.Alignment

/-! # Objects

What the library makes of a configuration: alignments, formats and definitions.  Another configuration
may hold such an object in place of the data that it was made of.
-/
namespace Stencil

inductive Format.Kind
  | integer (base : Nat)
  | real (digits : Nat) (exponential : Bool)
  | text (regex : Regex)
deriving DecidableEq, Repr

namespace Format.Kind

/-- The word that selects a kind in a configuration. -/
def tag : Kind → Text
  | integer _ => "int".toList
  | real .. => "number".toList
  | text _ => "string".toList

/-- The name of a kind in messages. -/
def title : Kind → Text
  | integer _ => "IntFormat".toList
  | real .. => "NumberFormat".toList
  | text _ => "StringFormat".toList

end Format.Kind

structure Format where
  alignment : Alignment
  kind : Format.Kind
deriving DecidableEq, Repr

/-- A template and, by name, the formats of its targets. -/
structure Definition where
  template : Text
  targets : List (Text × Format)
deriving DecidableEq, Repr

inductive Object
  | alignmentKind (k : Alignment.Kind)
  | alignment (a : Alignment)
  | format (f : Format)
  | definition (d : Definition)
deriving DecidableEq, Repr

namespace Object

def typeName : Object → Text
  | alignmentKind _ => "AlignmentKind".toList
  | alignment _ => "Alignment".toList
  | format f => f.kind.title
  | definition _ => "TemplateDefinition".toList

/-- Whether an object may be the key of a mapping: a definition holds a mapping itself. -/
def canBeKey : Object → Bool
  | definition _ => false
  | _ => true

end Object
end Stencil
