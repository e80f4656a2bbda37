import Stencil.Proofs.Alignment
import Stencil.Proofs.Format.Accepted
import Stencil.Proofs.Format.Pattern

/-! # Formats of texts

A text that an accepted format describes is written and comes back exactly if it is bare: the check
of the fill asks only whether the fill alone is a value, not whether a longer value starts or ends
with it.
-/
namespace Stencil.Format

variable {a : Alignment} {r : Regex} {v : Text}

/-- An accepted format has no value of just one fill character, unless it pads nowhere. -/
theorem bare_fill (haccepted : Accepted ⟨a, .text r⟩)
    (hv : (Kind.text r).describes [a.fill] = true) : a.Bare [a.fill] := by
  constructor
  · intro hpads
    have hstart : (Kind.text r).describes [a.fill] = false := haccepted.mayStart_eq_false hpads
    rw [hstart] at hv
    cases hv
  · intro hpads
    have hend : (Kind.text r).describes [a.fill] = false := haccepted.mayEnd_eq_false hpads
    rw [hend] at hv
    cases hv

/-- What an accepted format of texts takes off a value that it has padded. -/
theorem unpad_padded_eq_self_iff (haccepted : Accepted ⟨a, .text r⟩)
    (hv : (Kind.text r).describes v = true) :
    unpad ⟨a, .text r⟩ (a.padded v) = v ↔ a.Bare v := by
  rw [← Alignment.unpad_eq_self_iff, unpad, Alignment.unpad_padded]
  dsimp only
  split
  next h =>
    obtain ⟨hunpad, hnil⟩ := h
    have hne : v ≠ [] := by
      rintro rfl
      rw [hnil] at hv
      cases hv
    refine iff_of_false (fun hlast => ?_) (by rw [hunpad]; exact hne.symm)
    obtain ⟨m, n, hfill⟩ := a.exists_eq_unpad v
    rw [hunpad, List.nil_append, List.replicate_append_replicate] at hfill
    have hlength := congrArg List.length hlast
    have hpos := List.length_pos_iff.2 hne
    have hle := a.length_le_padded v
    rw [List.length_drop] at hlength
    have hcount := congrArg List.length hfill
    rw [List.length_replicate] at hcount
    have hone : m + n = 1 := by omega
    rw [hone] at hfill
    rw [hfill] at hv hunpad
    have hbare := Alignment.unpad_eq_self_iff.2 (bare_fill haccepted hv)
    rw [List.replicate_one, hbare] at hunpad
    cases hunpad
  next => rfl

/-- A text that an accepted format describes is written, and it is read back exactly if it is
bare. -/
theorem read_write_text_iff (a : Alignment) (r : Regex) (v : Text)
    (haccepted : Accepted ⟨a, .text r⟩) (hwidth : a.width < Alignment.widthLimit)
    (hv : (Kind.text r).describes v = true) :
    ∃ t, write ⟨a, .text r⟩ (.text v) = .ok t ∧
      (read ⟨a, .text r⟩ t = .ok (.text v) ↔ a.Bare v) := by
  refine ⟨a.padded v, ?_, ?_⟩
  · refine bind_eq_ok_iff.2 ⟨v, rfl, ?_⟩
    exact mapError_eq_ok_iff.2 (Alignment.pad_eq_ok hwidth v)
  · rw [← unpad_padded_eq_self_iff haccepted hv]
    exact ⟨fun h => by simpa [read, Kind.read] using h, fun h => by simp [read, Kind.read, h]⟩

/-- The expression `\d\d`. -/
def twoDigits : Regex :=
  ⟨"\\d\\d".toList, .cat (.char (.set [.category .digit false false] false .exact))
    (.char (.set [.category .digit false false] false .exact))⟩

/-- Two digits with zeros in front of them. -/
def zeroPadded (width : Nat) : Format := ⟨⟨.right, width, '0'⟩, .text twoDigits⟩

theorem accepted_zeroPadded (width : Nat) : (zeroPadded width).Accepted := by
  have hdigit := Kind.atom_digit.readsTrees (by simp) (Regex.CharTest.settle_set _ _)
  have hcompile : Regex.compile twoDigits.source = .ok twoDigits := (hdigit.append hdigit).compile_eq
  have hstart : (Kind.text twoDigits).mayStart ['0'] = false := by rfl
  exact accepted_iff.2 ⟨hcompile, fillFault?_eq_none_iff.2 ⟨nofun, fun _ => hstart⟩⟩

theorem read_write_text_iff_digits :
    (zeroPadded 4).Accepted ∧ 4 < Alignment.widthLimit ∧
      (zeroPadded 4).kind.describes "12".toList = true ∧
        ∃ t, (zeroPadded 4).write (.text "12".toList) = .ok t ∧
          ((zeroPadded 4).read t = .ok (.text "12".toList) ↔
            (zeroPadded 4).alignment.Bare "12".toList) :=
  have hdescribes : (zeroPadded 4).kind.describes "12".toList = true := by decide +kernel
  have hwidth : 4 < Alignment.widthLimit := by decide +kernel
  ⟨accepted_zeroPadded 4, hwidth, hdescribes,
    read_write_text_iff _ _ _ (accepted_zeroPadded 4) hwidth hdescribes⟩

/-- A format may be accepted although a value that it describes starts with the fill. -/
theorem zero_lost :
    (zeroPadded 2).Accepted ∧ (zeroPadded 2).kind.describes "05".toList = true ∧
      (zeroPadded 2).write (.text "05".toList) = .ok "05".toList ∧
        (zeroPadded 2).read "05".toList = .ok (.text "5".toList) := by
  refine ⟨accepted_zeroPadded 2, by decide +kernel, by rfl, ?_⟩
  rfl

end Stencil.Format
