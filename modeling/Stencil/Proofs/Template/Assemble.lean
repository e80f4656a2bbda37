import Stencil.Template
import Stencil.Proofs.Outcome

/-! # Putting blocks together

The text of a list of blocks, once each reference has its text.  Filling out and the source of a
template are both of this form, and differ in where the texts come from.
-/
namespace Stencil.Template

/-- The static texts with the given texts between them, one for each block. -/
def weave (final : Text) : List Block → List Text → Text
  | b :: blocks, w :: texts => b.static ++ (w ++ weave final blocks texts)
  | _, _ => final

theorem weave_eq_append (final : Text) (blocks : List Block) (texts : List Text) :
    weave final blocks texts = weave [] blocks texts ++ final := by
  induction blocks generalizing texts with
  | nil => rfl
  | cons b blocks ih =>
    cases texts with
    | nil => rfl
    | cons w texts => simp [weave, ih texts]

section Assemble
variable {fill : Int → Except DanglingIndex Text} {final : Text}

theorem assemble_cons_eq_ok_iff {b : Block} {rest : List Block} {text : Text} :
    assemble fill final (b :: rest) = .ok text ↔
      ∃ w tail, fill b.target = .ok w ∧ assemble fill final rest = .ok tail ∧
        text = b.static ++ (w ++ tail) := by
  simp only [assemble, bind_eq_ok_iff]
  constructor
  · rintro ⟨w, hw, tail, htail, htext⟩
    obtain rfl := Except.ok.inj htext
    exact ⟨w, tail, hw, htail, List.append_assoc _ _ _⟩
  · rintro ⟨w, tail, hw, htail, rfl⟩
    exact ⟨w, hw, tail, htail, congrArg Except.ok (List.append_assoc _ _ _)⟩

theorem assemble_cons_of_ok {b : Block} {rest : List Block} {w tail : Text}
    (hw : fill b.target = .ok w) (htail : assemble fill final rest = .ok tail) :
    assemble fill final (b :: rest) = .ok (b.static ++ (w ++ tail)) :=
  assemble_cons_eq_ok_iff.2 ⟨w, tail, hw, htail, rfl⟩

theorem assemble_eq_weave {text : Int → Text} {blocks : List Block}
    (h : ∀ b ∈ blocks, fill b.target = .ok (text b.target)) :
    assemble fill final blocks = .ok (weave final blocks (blocks.map fun b => text b.target)) := by
  induction blocks with
  | nil => rfl
  | cons b rest ih =>
    exact assemble_cons_of_ok (h b List.mem_cons_self) (ih fun b hb => h b (List.mem_cons_of_mem _ hb))

theorem assemble_congr {fill' : Int → Except DanglingIndex Text} {blocks : List Block}
    (h : ∀ b ∈ blocks, fill b.target = fill' b.target) :
    assemble fill final blocks = assemble fill' final blocks := by
  induction blocks with
  | nil => rfl
  | cons b rest ih =>
    simp only [assemble, h b List.mem_cons_self,
      ih fun b hb => h b (List.mem_cons_of_mem _ hb)]

end Assemble

/-- The value that is written for a target: a missing one is nothing. -/
def valueAt (values : List Text) (i : Int) : Text := (values[i.toNat]?).getD []

theorem valueAt_natCast (values : List Text) (i : Nat) : valueAt values i = (values[i]?).getD [] := rfl

/-- Filling out a template that has no negative references. -/
theorem write_eq_weave {t : Template} (h : ∀ b ∈ t.blocks, 0 ≤ b.target) (values : List Text) :
    t.write values =
      .ok (weave t.final t.blocks (t.blocks.map fun b => valueAt values b.target)) := by
  refine assemble_eq_weave fun b hb => ?_
  obtain ⟨i, hi⟩ := Int.eq_ofNat_of_zero_le (h b hb)
  rw [hi, valueAt_natCast]
  by_cases hlt : i < values.length
  · rw [if_pos (Int.ofNat_lt.2 hlt), getSigned_natCast, List.getElem?_eq_getElem hlt]
    rfl
  · rw [if_neg (mt Int.ofNat_lt.1 hlt), List.getElem?_eq_none (Nat.le_of_not_lt hlt)]
    rfl
end Stencil.Template
