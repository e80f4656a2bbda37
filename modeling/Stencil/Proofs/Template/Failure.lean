import Stencil.Proofs.Template.Gathering

/-! # How reading fails

If a template can be put together from its targets, a candidate is refused only because it deviates
from the template or because a target has captured more than one text.  What a target has captured is
what its pattern matches in the candidate.
-/
namespace Stencil

/-- A candidate deviates from the template, or a target has captured more than one text. -/
inductive ReadFailure.Mismatch : ReadFailure → Prop
  | badFormat (d : Deviation) (s : Option Surroundings) : Mismatch (.error ⟨.badFormat d, s⟩)
  | tooMany (r : Repetition) (s : Option Surroundings) : Mismatch (.error ⟨.tooMany r, s⟩)

/-- What a reader reports beside a fault of a candidate. -/
def Surroundings.ofRead (source candidate : Text) : Surroundings :=
  ⟨some source, some candidate, defaultLength⟩

namespace Reader
open Template

variable {patterns : List (Option Pattern)}

/-- If the targets of all blocks are there, the pass over the blocks ends early only at a deviation. -/
theorem readBlocks_ne_dangling {final : Text} {blocks : List Block}
    (h : ∀ b ∈ blocks, getSigned? patterns b.target ≠ none) (position offset : Nat) (rest : Text) :
    readBlocks patterns final position offset rest blocks ≠ .error .dangling := by
  induction blocks generalizing position offset rest with
  | nil =>
    rw [readBlocks]
    split <;> simp
  | cons b blocks ih =>
    have htail := ih fun d hd => h d (List.mem_cons_of_mem b hd)
    rw [readBlocks]
    dsimp only
    split
    · cases hp : getSigned? patterns b.target with
      | none => exact absurd hp (h b List.mem_cons_self)
      | some p =>
        cases p with
        | none => exact htail _ _ _
        | some p =>
          dsimp only
          cases p.matchLength (rest.drop b.static.length) with
          | none => simp
          | some n =>
            dsimp only
            cases hread : readBlocks patterns final (position + 1) (offset + b.static.length + n)
              ((rest.drop b.static.length).drop n) blocks with
            | ok captures => rintro ⟨⟩
            | error e =>
              rintro ⟨⟩
              exact htail _ _ _ hread
    · simp

variable {r : Reader} {candidate source : Text}

theorem report_of_source (h : r.template.source = .ok source) (candidate : Text)
    (fault : ReadFault) :
    r.report candidate fault = .error ⟨fault, some (.ofRead source candidate)⟩ := by
  rw [report, h]
  rfl

theorem mismatch_of_read_eq_error {failure : ReadFailure} (hsource : r.template.source = .ok source)
    (htargets : ∀ b ∈ r.template.blocks, getSigned? r.patterns b.target ≠ none)
    (h : r.read candidate = .error failure) : failure.Mismatch := by
  rw [read] at h
  split at h
  next d _ =>
    obtain rfl : r.report candidate (.badFormat d) = failure := Except.error.inj h
    exact report_of_source hsource candidate (.badFormat d) ▸ .badFormat d _
  next hdangling => exact absurd hdangling (readBlocks_ne_dangling htargets _ _ _)
  next captures _ =>
    cases hgather : gather captures 0 r.template.targets with
    | ok values =>
      rw [hgather] at h
      cases h
    | error repetition =>
      rw [hgather] at h
      obtain rfl : r.report candidate (.tooMany repetition) = failure := Except.error.inj h
      exact report_of_source hsource candidate (.tooMany repetition) ▸ .tooMany repetition _

/-- A capture is taken somewhere in the input. -/
theorem Lockstep.exists_taken {input rest : Text} {blocks : List Block} {texts : List Text}
    (h : Lockstep patterns input blocks texts rest) (position : Nat) {c : Capture}
    (hc : c ∈ capturesFrom patterns position blocks texts) :
    patterned patterns c.target = true ∧ c.value.length ≤ input.length ∧
      ∃ behind, taken patterns c.target (c.value ++ behind) = some c.value := by
  induction h generalizing position with
  | nil => simp [capturesFrom] at hc
  | @cons b blocks w texts input rest htaken _ ih =>
    rw [capturesFrom, List.mem_append, mem_capture_iff] at hc
    rcases hc with ⟨hp, rfl⟩ | hc
    · exact ⟨hp, by simp; omega, input, htaken⟩
    · obtain ⟨hp, hle, htail⟩ := ih (position + 1) hc
      exact ⟨hp, by simp; omega, htail⟩

/-- What is read for a target is matched by its pattern somewhere in the candidate. -/
theorem exists_matched {values : List (Option Text)} (h : r.read candidate = .ok values) {i : Nat}
    {w : Text} (hw : values[i]? = some (some w)) :
    w.length ≤ candidate.length ∧ ∃ p behind, getSigned? r.patterns i = some (some p) ∧
      p.matched (w ++ behind) = some w := by
  obtain ⟨texts, hlock, -, hvalues⟩ := read_eq_ok_iff.1 h
  have hcaptured : w ∈ capturedTexts (capturesFrom r.patterns 0 r.template.blocks texts) i := by
    rw [hvalues i _ hw]
    exact List.mem_singleton_self w
  obtain ⟨c, hc, rfl⟩ := List.mem_map.1 hcaptured
  obtain ⟨hmem, htarget⟩ := List.mem_filter.1 hc
  obtain ⟨hp, hle, behind, htaken⟩ := hlock.exists_taken 0 hmem
  rw [beq_iff_eq.1 htarget] at hp htaken
  refine ⟨hle, ?_⟩
  cases hi : getSigned? r.patterns i with
  | none => simp [patterned, hi] at hp
  | some p =>
    cases p with
    | none => simp [patterned, hi] at hp
    | some p => exact ⟨p, behind, rfl, by simpa [taken, hi] using htaken⟩

end Reader
end Stencil
