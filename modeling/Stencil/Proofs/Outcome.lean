import Mathlib

/-! # How composed steps end

A composed step ends well exactly if the steps it is made of do, and it fails exactly if one of them
fails.
-/
namespace Stencil

variable {ε δ α β : Type}

theorem bind_eq_ok_iff {x : Except ε α} {f : α → Except ε β} {b : β} :
    (x >>= f) = .ok b ↔ ∃ a, x = .ok a ∧ f a = .ok b := by
  cases x with
  | error e => simp [bind, Except.bind]
  | ok a => simp [bind, Except.bind]

theorem map_eq_ok_iff {x : Except ε α} {f : α → β} {b : β} :
    x.map f = .ok b ↔ ∃ a, x = .ok a ∧ f a = b := by
  cases x with
  | error e => simp [Except.map]
  | ok a => simp [Except.map]

theorem mapError_eq_ok_iff {x : Except ε α} {f : ε → δ} {a : α} :
    x.mapError f = .ok a ↔ x = .ok a := by
  cases x with
  | error e => simp [Except.mapError]
  | ok b => simp [Except.mapError]

theorem bind_eq_error_iff {x : Except ε α} {f : α → Except ε β} {e : ε} :
    (x >>= f) = .error e ↔ x = .error e ∨ ∃ a, x = .ok a ∧ f a = .error e := by
  cases x with
  | error e => simp [bind, Except.bind]
  | ok a => simp [bind, Except.bind]

theorem map_eq_error_iff {x : Except ε α} {f : α → β} {e : ε} :
    x.map f = .error e ↔ x = .error e := by
  cases x with
  | error e => simp [Except.map]
  | ok a => simp [Except.map]

theorem mapError_eq_error_iff {x : Except ε α} {f : ε → δ} {e : δ} :
    x.mapError f = .error e ↔ ∃ e', x = .error e' ∧ f e' = e := by
  cases x with
  | error e => simp [Except.mapError]
  | ok b => simp [Except.mapError]

/-- Whatever error a step ends with satisfies a predicate. -/
def FailsBy (p : ε → Prop) (x : Except ε α) : Prop := ∀ e, x = .error e → p e

namespace FailsBy
variable {p q : ε → Prop} {x : Except ε α}

theorem ok (a : α) : FailsBy p (.ok a : Except ε α) := by
  intro e he
  cases he

theorem error {e : ε} (h : p e) : FailsBy p (.error e : Except ε α) := by
  intro e' he
  cases he
  exact h

theorem mono (hx : FailsBy p x) (h : ∀ e, p e → q e) : FailsBy q x := fun e he => h e (hx e he)

theorem bind {f : α → Except ε β} (hx : FailsBy p x) (hf : ∀ a, x = .ok a → FailsBy p (f a)) :
    FailsBy p (x >>= f) := by
  intro e he
  rcases bind_eq_error_iff.1 he with he | ⟨a, ha, he⟩
  · exact hx e he
  · exact hf a ha e he

theorem ite {c : Prop} [Decidable c] {y : Except ε α} (hx : FailsBy p x) (hy : FailsBy p y) :
    FailsBy p (if c then x else y) := by
  by_cases h : c
  · rwa [if_pos h]
  · rwa [if_neg h]

theorem map {f : α → β} (hx : FailsBy p x) : FailsBy p (x.map f) :=
  fun e he => hx e (map_eq_error_iff.1 he)

end FailsBy
end Stencil
