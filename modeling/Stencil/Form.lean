import Stencil.Format
import Stencil.Template.Compile
import Stencil.Template.Read

/-! # Forms

A form is a template each of whose targets has a format: it is filled out with values and read back
to values.
-/
namespace Stencil

/-- The formats in the order of the targets, and the reader that has their patterns. -/
structure Form where
  formats : List (Text × Format)
  reader : Reader

namespace Form

inductive Fault
  | unknownTargets (names : List Value) (targets : List Text)
  | write (f : Format.WriteFault)
  | conversion (f : Conversion.Fault)
  | read (f : ReadFailure)
  | dangling (i : DanglingIndex)

def unknownTargetsMessage (names : List Value) (targets : List Text) : Text :=
  "Unknown targets ".toList ++ (Value.list names).quoted ++ ". Available targets: ".toList ++
    Text.bracketed (targets.map Text.quote)

/-- Formats by name: a name that comes again replaces the format and keeps its place. -/
def distinct (formats : List (Text × Format)) : List (Text × Format) :=
  formats.foldl
    (fun done (name, f) =>
      if done.any (·.1 == name) then done.map fun d => if d.1 = name then (name, f) else d
      else done ++ [(name, f)])
    []

/-- The patterns of the formats, or the first one that is no expression. -/
def patterns : List (Text × Format) → Except Regex.Error (List (Option Pattern))
  | [] => .ok []
  | (_, f) :: rest => do
    let r ← f.pattern
    return some r.toPattern :: (← patterns rest)

def build (template : Text) (formats : List (Text × Format)) :
    Except Regex.Error Form := do
  let formats := distinct formats
  let patterns ← patterns formats
  return ⟨formats, .ofPatterns (Template.compile template (formats.map (·.1))) patterns⟩

def template (t : Form) : Template := t.reader.template

def targets (t : Form) : List Text := t.template.targets

def unknownNames (t : Form) (values : List (Value × Value)) : List Value :=
  (values.map (·.1)).filter fun
    | .text name => !(t.formats.any (·.1 == name))
    | _ => true

/-- The text of each target; a target without a value has none. -/
def texts (values : List (Value × Value)) :
    List (Text × Format) → Except Format.WriteFault (List Text)
  | [] => .ok []
  | (name, f) :: rest => do
    let text ← match Value.field? values name with
      | some v => f.write v
      | none => .ok []
    return text :: (← texts values rest)

def write (t : Form) (values : List (Value × Value)) : Except Fault Text := do
  let unknown := t.unknownNames values
  if !unknown.isEmpty then throw (.unknownTargets unknown t.targets)
  let texts ← (texts values t.formats).mapError .write
  (t.template.write texts).mapError .dangling

def parse : List (Text × Format) → List (Option Text) →
    Except Conversion.Fault (List (Text × Option Value))
  | (name, f) :: formats, captured :: rest => do
    let value ← match captured with
      | none => .ok none
      | some t => (f.read t).map some
    return (name, value) :: (← parse formats rest)
  | _, _ => .ok []

/-- Read a filled-out template back to one value per target, `none` where nothing was read. -/
def read (t : Form) (text : Text) : Except Fault (List (Text × Option Value)) := do
  let captured ← (t.reader.read text).mapError .read
  (parse t.formats captured).mapError .conversion

end Form
end Stencil
