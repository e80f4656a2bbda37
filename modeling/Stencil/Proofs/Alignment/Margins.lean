import Stencil.Proofs.Alignment

/-! # How a text is padded

A text is padded to its width and no further, so to pad it again changes nothing.  The margins around it
stand on padded sides only, and those of a centered text are equal but for one character.
-/
namespace Stencil.Alignment

variable {a : Alignment}

/-- The result is the text between margins of fill, which are on padded sides only.  Where both sides
are padded, the margins differ by at most one, and the larger one comes first if the width is odd. -/
structure Frames (a : Alignment) (text : Text) (before after : Nat) (result : Text) : Prop where
  eq : result = List.replicate before a.fill ++ text ++ List.replicate after a.fill
  before_eq : a.kind.padsStart = false → before = 0
  after_eq : a.kind.padsEnd = false → after = 0
  centered : a.kind = .center → before ≤ after + 1 ∧ after ≤ before + 1 ∧
    (before ≠ after → (after < before ↔ a.width % 2 = 1))

theorem margins_add (h : a.kind ≠ .none) (length : Nat) :
    (a.margins length).1 + (a.margins length).2 = a.width - length := by
  simp only [margins]
  cases hkind : a.kind with
  | none => exact absurd hkind h
  | left => simp
  | right => simp
  | center =>
    dsimp only
    split <;> omega

/-- There is no margin around a text that has the width already. -/
theorem margins_of_width_le {length : Nat} (h : a.width ≤ length) : a.margins length = (0, 0) := by
  have hnone : a.width - length = 0 := Nat.sub_eq_zero_of_le h
  simp only [margins, hnone]
  cases a.kind <;> rfl

theorem frames_padded (a : Alignment) (text : Text) :
    a.Frames text (a.margins text.length).1 (a.margins text.length).2 (a.padded text) where
  eq := rfl
  before_eq h := by
    simp only [margins]
    cases hkind : a.kind <;> simp_all
  after_eq h := by
    simp only [margins]
    cases hkind : a.kind <;> simp_all
  centered h := by
    simp only [margins, h]
    split <;> omega

theorem length_padded (h : a.kind ≠ .none) (text : Text) :
    (a.padded text).length = max text.length a.width := by
  have hadd := margins_add h text.length
  simp only [padded, List.length_append, List.length_replicate]
  omega

theorem padded_of_width_le {text : Text} (h : a.width ≤ text.length) : a.padded text = text := by
  simp [padded, margins_of_width_le h]

theorem padded_padded (a : Alignment) (text : Text) : a.padded (a.padded text) = a.padded text := by
  by_cases hnone : a.kind = .none
  · simp [padded, margins, hnone]
  · apply padded_of_width_le
    rw [length_padded hnone]
    exact Nat.le_max_right _ _

/-- A text is padded for every width that is allowed.  From the padded text the same is left as from
the text itself, which is the text exactly if it is bare.  To pad it again changes nothing, and it is
as long as the text or the width, with the text between its margins. -/
theorem pad_laws (a : Alignment) (text : Text) (hwidth : a.width < widthLimit) :
    ∃ result, a.pad text = .ok result ∧ a.unpad result = a.unpad text ∧
      (a.unpad result = text ↔ a.Bare text) ∧ a.pad result = .ok result ∧
        (∃ before after, a.Frames text before after result) ∧
          (a.kind ≠ .none → result.length = max text.length a.width) := by
  refine ⟨a.padded text, pad_eq_ok hwidth text, unpad_padded a text, ?_, ?_,
    ⟨_, _, frames_padded a text⟩, fun h => length_padded h text⟩
  · rw [unpad_padded, unpad_eq_self_iff]
  · rw [pad_eq_ok hwidth, padded_padded]

/-- Three characters around a text in the middle, which ends with the fill. -/
theorem pad_laws_centered :
    (⟨.center, 7, '0'⟩ : Alignment).width < widthLimit ∧
      pad ⟨.center, 7, '0'⟩ "1a00".toList = .ok "001a000".toList ∧
        unpad ⟨.center, 7, '0'⟩ "001a000".toList = "1a".toList ∧
          pad ⟨.center, 7, '0'⟩ "001a000".toList = .ok "001a000".toList := by
  have hwidth : (⟨.center, 7, '0'⟩ : Alignment).width < widthLimit := lt_widthLimit (by decide)
  obtain ⟨result, hpad, hunpad, -, hagain, -⟩ := pad_laws ⟨.center, 7, '0'⟩ "1a00".toList hwidth
  obtain rfl : result = "001a000".toList := by
    rw [pad_eq_ok hwidth] at hpad
    exact (Except.ok.inj hpad).symm
  exact ⟨hwidth, hpad, hunpad, hagain⟩

end Stencil.Alignment
