import Stencil.Format.Configured
import Stencil.Form

/-! # Definitions

A definition describes a typed template by a mapping: the template and, by name, the formats of its
targets.
-/
namespace Stencil

namespace Definition

def target (entry : Value × Value) : Checked (Text × Format) :=
  let name := (Scalar.text entry.1).under (.name "[key]".toList)
  (name.both (Format.ofValue entry.2)).under (.ofKey entry.1)

def targetsOfValue : Value → Checked (List (Text × Format))
  | .mapping entries => (Checked.all (entries.map target)).map Form.distinct
  | _ => Checked.fail .notMapping

def templateOfEntries (entries : List (Value × Value)) : Checked Text :=
  match Value.field? entries "template".toList with
  | none => (Checked.fail .missing).under (.name "template".toList)
  | some v => (Scalar.text v).under (.name "template".toList)

def policy : Policy := ⟨true, true⟩

def ofValue : Value → Checked Definition
  | .mapping entries =>
    let template := templateOfEntries entries
    let targets := Checked.field entries "targets".toList [] targetsOfValue
    let known := Checked.known policy ["template".toList, "targets".toList] entries
    (template.both (targets.both known)).map fun (template, targets, _) => ⟨template, targets⟩
  | .object (.definition d) => .ok d
  | _ => Checked.fail (.notModel "TemplateDefinition".toList)

def build (d : Definition) : Except Regex.Error Form :=
  Form.build d.template d.targets

/-- Why a definition is not loaded. -/
inductive Fault
  | invalid (ps : List Problem)
  | unreadable
  | other (reason : Text)
deriving Repr

/-- A fault together with where the definition came from. -/
structure LoadError where
  source : Text
  fault : Fault
deriving Repr

def introduction (source : Text) : Text :=
  "Invalid template definition from ".toList ++ source ++ ": ".toList

def countText (n : Nat) : Text :=
  Text.ofNat n ++ (if n = 1 then " validation error" else " validation errors").toList ++
    " for TemplateDefinition".toList

/-- The first line of the report. -/
def LoadError.message (e : LoadError) : Text :=
  introduction e.source ++
    match e.fault with
    | .invalid ps => countText ps.length
    | .unreadable => []
    | .other reason => reason

end Definition
end Stencil
