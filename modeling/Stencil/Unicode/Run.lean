/-! # Runs of code points

Character classes are lists of closed runs of code points.
-/
namespace Stencil.Unicode

/-- Whether a code point lies in one of the runs. -/
def inRuns (runs : List (Nat × Nat)) (c : Nat) : Bool :=
  runs.any fun r => r.1 ≤ c && c ≤ r.2

theorem inRuns_iff {runs : List (Nat × Nat)} {c : Nat} :
    inRuns runs c = true ↔ ∃ r ∈ runs, r.1 ≤ c ∧ c ≤ r.2 := by
  simp [inRuns]

end Stencil.Unicode
