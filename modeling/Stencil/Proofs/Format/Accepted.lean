import Stencil.Proofs.Format.Configured

/-! # Accepted formats

A format is accepted if some configuration gives it.  These are the formats whose settings are in
range and whose fill can neither start nor end a value where it would be taken off again.
-/
namespace Stencil.Format

/-- The format of some configuration. -/
def Accepted (f : Format) : Prop := ∃ tag entries, ofEntries tag entries = .ok f

/-- A configuration of a format, with all of its settings. -/
def entriesOf (f : Format) : List (Value × Value) :=
  (.text "alignment".toList, .mapping [
    (.text "kind".toList, .text f.alignment.kind.tag),
    (.text "width".toList, .int f.alignment.width),
    (.text "fill".toList, .text [f.alignment.fill])]) ::
  match f.kind with
  | .integer base => [(.text "base".toList, .int base)]
  | .real digits exponential =>
    [(.text "digits".toList, .int digits), (.text "exponential_notation".toList, .bool exponential)]
  | .text regex => [(.text "regex".toList, .text regex.source)]

theorem settings_entriesOf {f : Format} (h : f.kind.InRange) : f.kind.GivenBy f.entriesOf := by
  obtain ⟨alignment, kind⟩ := f
  cases kind with
  | integer base => exact .inr ⟨.int base, rfl, base, rfl, clamp_of_mem h.1 h.2⟩
  | real digits exponential =>
    have hdigits : clamp 0 100 digits = digits := clamp_of_mem (Nat.zero_le digits) h
    exact ⟨.inr ⟨.int digits, rfl, digits, rfl, hdigits⟩, .inr ⟨.bool exponential, rfl, rfl⟩⟩
  | text regex => exact .inr ⟨.text regex.source, rfl, rfl⟩

theorem configured_entriesOf {f : Format} (h : f.Sound) : f.Configured f.entriesOf := by
  have halignment : f.alignment.Configured [
      (.text "kind".toList, .text f.alignment.kind.tag),
      (.text "width".toList, .int f.alignment.width),
      (.text "fill".toList, .text [f.alignment.fill])] := {
    kind := .inr ⟨_, rfl, .inl rfl⟩
    width := .inr ⟨_, rfl, rfl⟩
    fill := .inr ⟨_, rfl, rfl⟩ }
  have htag : Value.field? f.entriesOf "kind".toList = none := by
    obtain ⟨alignment, kind⟩ := f
    cases kind <;> rfl
  exact {
    toSound := h
    alignment := .inr ⟨_, rfl, .inr ⟨_, rfl, halignment⟩⟩
    tag := fun v hv => absurd (htag.symm.trans hv) (Option.some_ne_none v).symm
    settings := settings_entriesOf h.inRange }

theorem accepted_iff_sound {f : Format} : f.Accepted ↔ f.Sound := by
  constructor
  · rintro ⟨tag, entries, h⟩
    exact (ofEntries_eq_ok_iff_configured.1 h).2.toSound
  · intro h
    obtain ⟨tag, htag⟩ := f.kind.exists_tag
    exact ⟨tag, f.entriesOf, ofEntries_eq_ok_iff_configured.2 ⟨htag, configured_entriesOf h⟩⟩

/-- A format is accepted exactly if its settings are in range and its fill suits its values. -/
theorem accepted_iff {f : Format} : f.Accepted ↔ f.kind.InRange ∧ f.fillFault? = none :=
  accepted_iff_sound.trans sound_iff

namespace Accepted
variable {f : Format}

theorem inRange (h : f.Accepted) : f.kind.InRange := (accepted_iff.1 h).1

theorem mayEnd_eq_false (h : f.Accepted) (hpads : f.alignment.kind.padsEnd = true) :
    f.kind.mayEnd [f.alignment.fill] = false :=
  (fillFault?_eq_none_iff.1 (accepted_iff.1 h).2).1 hpads

theorem mayStart_eq_false (h : f.Accepted) (hpads : f.alignment.kind.padsStart = true) :
    f.kind.mayStart [f.alignment.fill] = false :=
  (fillFault?_eq_none_iff.1 (accepted_iff.1 h).2).2 hpads

end Accepted

end Stencil.Format
