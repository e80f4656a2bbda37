import Stencil.Regex

/-! # Readers

A reader is made of patterns or of the sources of expressions, which it compiles.  Whatever comes beyond
the targets of the template is neither compiled nor used.
-/
namespace Stencil

inductive PatternLike
  | source (t : Text)
  | pattern (p : Pattern)

namespace Reader

/-- The patterns up to the first source that is no expression. -/
def compileAll : List (Option PatternLike) → Except Regex.Error (List (Option Pattern))
  | [] => .ok []
  | p :: rest => do
    let first ← match p with
      | none => .ok none
      | some (.source t) => (Regex.compile t).map fun r => some r.toPattern
      | some (.pattern p) => .ok (some p)
    return first :: (← compileAll rest)

def ofSources (template : Template) (patterns : List (Option PatternLike)) :
    Except Regex.Error Reader :=
  (compileAll (patterns.take template.targets.length)).map (ofPatterns template)

/-- Read a candidate; an error of reading is a result like any other. -/
def attempt (r : Reader) (candidate : Text) :
    Except DanglingIndex (Except ReadError (List (Option Text))) :=
  match r.read candidate with
  | .ok values => .ok (.ok values)
  | .error (.error e) => .ok (.error e)
  | .error (.dangling i) => .error i

theorem compileAll_pattern (patterns : List (Option Pattern)) :
    compileAll (patterns.map fun p => p.map .pattern) = .ok patterns := by
  induction patterns with
  | nil => rfl
  | cons p patterns ih =>
    cases p with
    | none =>
      simp only [List.map_cons, Option.map_none, compileAll, ih]
      rfl
    | some p =>
      simp only [List.map_cons, Option.map_some, compileAll, ih]
      rfl

theorem ofPatterns_take (template : Template) (patterns : List (Option Pattern)) :
    ofPatterns template (patterns.take template.targets.length) = ofPatterns template patterns := by
  simp only [ofPatterns, mk.injEq, true_and]
  apply List.map_congr_left
  intro i hi
  rw [List.getElem?_take_of_lt (List.mem_range.1 hi)]

/-- Patterns that are compiled already are taken as they are. -/
theorem ofSources_pattern (template : Template) (patterns : List (Option Pattern)) :
    ofSources template (patterns.map fun p => p.map .pattern) = .ok (ofPatterns template patterns) := by
  rw [ofSources, ← List.map_take, compileAll_pattern]
  exact congrArg Except.ok (ofPatterns_take template patterns)

end Reader
end Stencil
