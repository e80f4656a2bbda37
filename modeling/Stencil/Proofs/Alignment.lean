import Stencil.Format
import Stencil.Proofs.Text

/-! # Padding and taking it off

What is taken off a padded text is what is taken off the text itself, and the padding with it.  So a
text comes back exactly if it is bare: on a padded side it does not have the fill character at its
end.
-/
namespace Stencil

namespace Alignment

attribute [simp] Kind.padsStart Kind.padsEnd

variable {a : Alignment} {text : Text}

/-- The text has no fill character at an end that is padded. -/
def Bare (a : Alignment) (text : Text) : Prop :=
  (a.kind.padsStart = true → text.head? ≠ some a.fill) ∧
    (a.kind.padsEnd = true → text.getLast? ≠ some a.fill)

instance (a : Alignment) (text : Text) : Decidable (a.Bare text) :=
  inferInstanceAs (Decidable (_ ∧ _))

theorem unpad_eq (a : Alignment) (text : Text) :
    a.unpad text =
      let text := if a.kind.padsStart then text.dropWhile (· == a.fill) else text
      if a.kind.padsEnd then text.rdropWhile (· == a.fill) else text := rfl

/-- There are margins on padded sides only. -/
theorem exists_margins (a : Alignment) (text : Text) :
    ∃ m n, a.padded text = List.replicate m a.fill ++ text ++ List.replicate n a.fill ∧
      (a.kind.padsStart = false → m = 0) ∧ (a.kind.padsEnd = false → n = 0) := by
  refine ⟨_, _, rfl, ?_, ?_⟩ <;> cases a.kind <;> simp [Kind.padsStart]

theorem lt_widthLimit {n : Nat} (h : n < 100) : n < widthLimit := h.trans (by decide +kernel)

theorem pad_eq_ok (h : a.width < widthLimit) (text : Text) : a.pad text = .ok (a.padded text) := by
  rw [pad, if_neg fun hwide => absurd hwide.2 (Nat.not_le.2 h)]

/-- Fill on padded sides changes nothing of what remains when it is taken off. -/
theorem unpad_replicate {m n : Nat} (hstart : a.kind.padsStart = false → m = 0)
    (hend : a.kind.padsEnd = false → n = 0) (text : Text) :
    a.unpad (List.replicate m a.fill ++ text ++ List.replicate n a.fill) = a.unpad text := by
  have hfill : ∀ n, ∀ c ∈ List.replicate n a.fill, (c == a.fill) = true := by
    intro n c hc
    rw [List.eq_of_mem_replicate hc, beq_self_eq_true]
  simp only [unpad_eq]
  cases hs : a.kind.padsStart <;> cases he : a.kind.padsEnd
  · simp [hstart hs, hend he]
  · simp only [hstart hs, List.replicate_zero, List.nil_append, if_true, Bool.false_eq_true, if_false]
    exact Text.rdropWhile_append_of_all (hfill _)
  · simp only [hend he, List.replicate_zero, List.append_nil, if_true, Bool.false_eq_true, if_false]
    exact List.dropWhile_append_of_pos (hfill _)
  · simp only [if_true]
    rw [List.append_assoc, List.dropWhile_append_of_pos (hfill _)]
    exact Text.rdropWhile_dropWhile_append_of_all (hfill _)

theorem unpad_padded (a : Alignment) (text : Text) : a.unpad (a.padded text) = a.unpad text := by
  obtain ⟨m, n, hpadded, hm, hn⟩ := a.exists_margins text
  rw [hpadded, unpad_replicate hm hn]

/-- Nothing is taken off exactly if the text is bare. -/
theorem unpad_eq_self_iff : a.unpad text = text ↔ a.Bare text := by
  have hhead : text.dropWhile (· == a.fill) = text ↔ text.head? ≠ some a.fill := by
    rw [Text.dropWhile_eq_self_iff_head?]
    cases text.head? <;> simp
  have hlast : List.rdropWhile (· == a.fill) text = text ↔ text.getLast? ≠ some a.fill := by
    rw [Text.rdropWhile_eq_self_iff]
    cases text.getLast? <;> simp
  simp only [unpad_eq, Bare]
  cases hs : a.kind.padsStart <;> cases he : a.kind.padsEnd
  · simp
  · simpa using hlast
  · simpa using hhead
  · simp only [if_true, forall_const]
    constructor
    · intro h
      -- what is cut at the end is not longer than what is left at the start, so neither cut shortens
      have hle : text.length ≤ (text.dropWhile (· == a.fill)).length := by
        conv_lhs => rw [← h]
        exact (List.rdropWhile_prefix _ _).length_le
      have hstart := (List.dropWhile_suffix (l := text) (· == a.fill)).eq_of_length_le hle
      rw [hstart] at h
      exact ⟨hhead.1 hstart, hlast.1 h⟩
    · rintro ⟨h1, h2⟩
      rw [hhead.2 h1, hlast.2 h2]

/-- Only fill is taken off. -/
theorem exists_eq_unpad (a : Alignment) (text : Text) :
    ∃ m n, text = List.replicate m a.fill ++ (a.unpad text ++ List.replicate n a.fill) := by
  obtain ⟨m, hm⟩ := Text.eq_replicate_append_dropWhile a.fill text
  simp only [unpad_eq]
  cases a.kind.padsStart <;> cases a.kind.padsEnd
  · exact ⟨0, 0, by simp⟩
  · obtain ⟨n, hn⟩ := Text.eq_rdropWhile_append_replicate a.fill text
    exact ⟨0, n, by simpa using hn⟩
  · exact ⟨m, 0, by simpa using hm⟩
  · obtain ⟨n, hn⟩ := Text.eq_rdropWhile_append_replicate a.fill (text.dropWhile (· == a.fill))
    refine ⟨m, n, ?_⟩
    simp only [if_true]
    rw [← hn, ← hm]

theorem length_le_padded (a : Alignment) (text : Text) : text.length ≤ (a.padded text).length := by
  simp only [padded, List.length_append]
  omega

end Alignment

namespace Format
variable {f : Format} {u : Text}

/-- A bare value is left when its padding is taken off. -/
theorem unpad_of_bare {m n : Nat} (hm : f.alignment.kind.padsStart = false → m = 0)
    (hn : f.alignment.kind.padsEnd = false → n = 0) (hne : u ≠ []) (hbare : f.alignment.Bare u) :
    f.unpad (List.replicate m f.alignment.fill ++ u ++ List.replicate n f.alignment.fill) = u := by
  rw [unpad, Alignment.unpad_replicate hm hn, Alignment.unpad_eq_self_iff.2 hbare]
  exact if_neg fun h => hne h.1

theorem length_unpad_le (f : Format) (text : Text) : (f.unpad text).length ≤ text.length := by
  obtain ⟨m, n, htext⟩ := f.alignment.exists_eq_unpad text
  have hlength := congrArg List.length htext
  simp only [List.length_append, List.length_replicate] at hlength
  rw [unpad]
  split
  next => simp
  next => omega

/-- If a value padded at its start is nothing but fill, one fill character is left of it. -/
theorem unpad_right {m : Nat} (hkind : f.alignment.kind = .right)
    (hnil : f.kind.describes [] = false) (hne : u ≠ []) :
    f.unpad (List.replicate m f.alignment.fill ++ u) =
      if u.dropWhile (· == f.alignment.fill) = [] then [f.alignment.fill]
      else u.dropWhile (· == f.alignment.fill) := by
  have hunpad := Alignment.unpad_replicate (a := f.alignment) (m := m) (n := 0)
    (by simp [hkind]) (fun _ => rfl) u
  have hvalue : f.alignment.unpad u = u.dropWhile (· == f.alignment.fill) := by
    simp [Alignment.unpad, hkind]
  rw [List.replicate_zero, List.append_nil, hvalue] at hunpad
  rw [unpad, hunpad]
  split
  next h =>
    obtain ⟨k, hk⟩ := Text.eq_replicate_append_dropWhile f.alignment.fill u
    rw [h.1, List.append_nil] at hk
    have hpos : 0 < k := by
      rw [Nat.pos_iff_ne_zero]
      rintro rfl
      exact hne hk
    rw [if_pos h.1]
    conv_lhs => rw [hk]
    rw [List.replicate_append_replicate, List.drop_replicate, List.length_replicate,
      show m + k - (m + k - 1) = 1 by omega, List.replicate_one]
  next h => rw [if_neg fun hnone => h ⟨hnone, hnil⟩]

end Format
end Stencil
