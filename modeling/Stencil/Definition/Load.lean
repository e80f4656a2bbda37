import Stencil.Definition
import Stencil.Loader

/-! # Loading definitions

A definition is loaded from a configuration value or from the bytes of a file whose document a loader
reads.  A document that is nothing at all counts as an empty mapping.
-/
namespace Stencil.Definition

/-- How loading fails: with a report, or by something that no report is made of. -/
inductive LoadFailure
  | load (e : LoadError)
  | expression (e : Regex.Error)
  | mistaken
  | undecodable
  | exception (e : Exception)
deriving Repr

def ofConfig (source : Text) (v : Value) : Except LoadFailure Definition :=
  (ofValue v).mapError fun
    | .problems ps => .load ⟨source, .invalid ps⟩
    | .expression e => .expression e
    | .mistaken => .mistaken

/-- The form in which a path is shown: without empty parts and without points for the directory
itself. -/
def shownPath (path : Text) : Text :=
  let parts := (path.splitOn '/').filter fun p => !(p.isEmpty || p == ['.'])
  let shown := (if path.head? = some '/' then ['/'] else []) ++ ['/'].intercalate parts
  if shown.isEmpty then ['.'] else shown

/-- What a document stands for as a configuration. -/
def configOf (source : Text) (v : Value) : Except LoadFailure Definition :=
  if v.isEmpty then ofConfig source (.mapping [])
  else
    match v with
    | .mapping entries => ofConfig source (.mapping entries)
    | _ => .error (.load ⟨source, .other "top level must be a mapping".toList⟩)

def ofFile (loader : Loader) (path : Text) (contents : List UInt8) : Except LoadFailure Definition :=
  match Scalar.decode contents with
  | none => .error .undecodable
  | some text =>
    match loader (Text.unifyLineEnds text) with
    | .ok v => configOf (shownPath path) v
    | .error .malformed => .error (.load ⟨shownPath path, .unreadable⟩)
    | .error (.exception e) => .error (.exception e)

end Stencil.Definition
