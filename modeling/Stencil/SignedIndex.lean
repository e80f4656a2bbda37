/-! # Signed indices

An index into a list may be negative, and then counts from the end.
-/
namespace Stencil

/-- The entry that a signed index refers to. -/
def getSigned? {α : Type} (xs : List α) (i : Int) : Option α :=
  if 0 ≤ i then xs[i.toNat]?
  else if 0 ≤ xs.length + i then xs[(xs.length + i).toNat]? else none

@[simp] theorem getSigned_natCast {α : Type} (xs : List α) (n : Nat) : getSigned? xs n = xs[n]? := by
  simp [getSigned?]

end Stencil
