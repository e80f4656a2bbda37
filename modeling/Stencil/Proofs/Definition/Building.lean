import Stencil.Proofs.Form.Failure
import Stencil.Proofs.Object
import Stencil.Proofs.Regex.Enclosed

/-! # Building loaded definitions

A definition that is loaded has accepted formats, whose expressions compile alone.  It is built
exactly if they also compile beside their padding: an expression that sets flags for all of itself
does not.
-/
namespace Stencil
open Regex (Piece)
open Regex.Parse (Reads)

namespace Alignment
variable (a : Alignment)

theorem exists_reads_padding (pads : Bool) :
    ∃ ps, Reads (if pads then a.paddingExpression else []) ps ∧
      ∀ p ∈ Piece.opened ps, p.tree.fault? false = none := by
  cases pads with
  | false => exact Regex.Parse.readsTrees_nil.exists_reads
  | true => exact a.readsTrees_padding.exists_reads

theorem around_of_ne_none {a : Alignment} (h : a.kind ≠ .none) (source : Text) :
    a.around source = Regex.enclosed (if a.kind.padsStart then a.paddingExpression else []) source
      (if a.kind.padsEnd then a.paddingExpression else []) := by
  simp [around, Regex.enclosed, h]

end Alignment

namespace Format
variable {f : Format}

/-- The expression of a format may stand beside the padding: it sets no flags for all of itself, or
there is no padding. -/
def Embeds (f : Format) : Prop :=
  match f.kind with
  | .text r => f.alignment.kind = .none ∨ Regex.ownFlags r.source = .none
  | _ => True

theorem exists_pattern_of_embeds (h : f.Accepted) (hembeds : f.Embeds) :
    ∃ r, f.pattern = .ok r := by
  obtain ⟨a, kind⟩ := f
  cases kind with
  | integer base => exact exists_pattern_of_numeric h trivial
  | real digits exponential => exact exists_pattern_of_numeric h trivial
  | text r =>
    have hcompile : Regex.compile r.source = .ok r := h.inRange
    by_cases hnone : a.kind = .none
    · refine ⟨r, ?_⟩
      rw [pattern, Alignment.around, if_pos hnone]
      exact hcompile
    · obtain ⟨ps, hps, hfaults⟩ := a.exists_reads_padding a.kind.padsStart
      obtain ⟨qs, hqs, hfaults'⟩ := a.exists_reads_padding a.kind.padsEnd
      have hflags : Regex.ownFlags r.source = .none := hembeds.resolve_left hnone
      rw [pattern, Alignment.around_of_ne_none hnone]
      refine Regex.exists_compile_enclosed hcompile hflags hps hqs fun p hp => ?_
      exact (List.mem_append.1 hp).elim (hfaults p) (hfaults' p)

theorem pattern_of_not_embeds (h : f.Accepted) (hembeds : ¬f.Embeds) :
    ∃ place, f.pattern = .error ⟨f.alignment.around f.kind.expression,
      .malformed .misplacedFlags place⟩ := by
  obtain ⟨a, kind⟩ := f
  cases kind with
  | integer base => exact absurd trivial hembeds
  | real digits exponential => exact absurd trivial hembeds
  | text r =>
    obtain ⟨hnone, hflags⟩ := not_or.1 hembeds
    obtain ⟨ps, hps, -⟩ := a.exists_reads_padding a.kind.padsStart
    rw [pattern, Alignment.around_of_ne_none hnone]
    exact Regex.compile_enclosed_of_flags h.inRange hflags hps _

end Format

namespace Definition

/-- A definition that is loaded is built exactly if the expressions of its formats may stand beside
the padding.  Otherwise one of them has its flags at the wrong place. -/
theorem build_of_loaded (source : Text) (config : Value) (d : Definition)
    (hobjects : ∀ o ∈ config.objects, o.Obtained) (h : ofConfig source config = .ok d) :
    ((∃ form, d.build = .ok form) ↔ ∀ t ∈ d.targets, t.2.Embeds) ∧
      ∀ e, d.build = .error e → ∃ t ∈ d.targets, ¬t.2.Embeds ∧ ∃ place,
        e = ⟨t.2.alignment.around t.2.kind.expression, .malformed .misplacedFlags place⟩ := by
  obtain ⟨hnodup, hsound⟩ := (Object.Obtained.loaded hobjects h).sound
  have hdistinct := Form.distinct_of_nodup hnodup
  have haccepted (t : Text × Format) (ht : t ∈ d.targets) : t.2.Accepted :=
    Format.accepted_iff_sound.2 (hsound t ht)
  refine ⟨⟨?_, fun hembeds => ?_⟩, fun e he => ?_⟩
  · rintro ⟨form, hform⟩ t ht
    obtain ⟨ps, hps, -⟩ := Form.build_eq_ok_iff.1 hform
    rw [hdistinct] at hps
    obtain ⟨i, hi⟩ := List.getElem?_of_mem ht
    obtain ⟨r, hr, -⟩ := Form.getElem?_patterns hps hi
    by_contra hembeds
    obtain ⟨place, hplace⟩ := Format.pattern_of_not_embeds (haccepted t ht) hembeds
    cases hr.symm.trans hplace
  · obtain ⟨ps, hps⟩ := Form.exists_patterns fun t ht =>
      Format.exists_pattern_of_embeds (haccepted t ht) (hembeds t ht)
    exact ⟨_, Form.build_eq_ok_iff.2 ⟨ps, by rwa [hdistinct], rfl⟩⟩
  · obtain ⟨t, ht, hpattern⟩ := Form.of_patterns_eq_error (Form.patterns_of_build_eq_error he)
    rw [hdistinct] at ht
    have hembeds : ¬t.2.Embeds := by
      intro hembeds
      obtain ⟨r, hr⟩ := Format.exists_pattern_of_embeds (haccepted t ht) hembeds
      cases hr.symm.trans hpattern
    obtain ⟨place, hplace⟩ := Format.pattern_of_not_embeds (haccepted t ht) hembeds
    exact ⟨t, ht, hembeds, place, Except.error.inj (hpattern.symm.trans hplace)⟩

/-- A target whose texts an expression describes, with blanks behind them. -/
def leftAlignedEntries (expression : Text) : List (Value × Value) := [
  (.text "kind".toList, .text "string".toList),
  (.text "regex".toList, .text expression),
  (.text "alignment".toList, .mapping [
    (.text "kind".toList, .text "left".toList),
    (.text "width".toList, .int 4),
    (.text "fill".toList, .text " ".toList)])]

/-- The configuration of one such target. -/
def leftAligned (expression : Text) : Value :=
  .mapping [
    (.text "template".toList, .text "x=A".toList),
    (.text "targets".toList, .mapping [(.text "A".toList, .mapping (leftAlignedEntries expression))])]

theorem configured_leftAligned {r : Regex} (hcompile : Regex.compile r.source = .ok r)
    (hfill : (Format.Kind.text r).describes [' '] = false) :
    Format.Configured (leftAlignedEntries r.source) ⟨⟨.left, 4, ' '⟩, .text r⟩ where
  inRange := hcompile
  notEnd _ := hfill
  notStart := by simp
  alignment := by
    refine .inr ⟨_, rfl, .inr ⟨_, rfl, ?_⟩⟩
    exact ⟨.inr ⟨_, rfl, .inl rfl⟩, .inr ⟨_, rfl, rfl⟩, .inr ⟨_, rfl, rfl⟩⟩
  tag v hv := (Option.some.inj hv).symm
  settings := .inr ⟨_, rfl, rfl⟩

theorem ofConfig_leftAligned {r : Regex} (hcompile : Regex.compile r.source = .ok r)
    (hfill : (Format.Kind.text r).describes [' '] = false) :
    ofConfig "config".toList (leftAligned r.source) =
      .ok ⟨"x=A".toList, [("A".toList, ⟨⟨.left, 4, ' '⟩, .text r⟩)]⟩ := by
  let t : Text × Format := ("A".toList, ⟨⟨.left, 4, ' '⟩, .text r⟩)
  have hgives : Gives (.text "A".toList, .mapping (leftAlignedEntries r.source)) t :=
    ⟨rfl, .inr ⟨_, rfl, rfl, configured_leftAligned hcompile hfill⟩⟩
  refine ofConfig_eq_ok_iff_configured.2 (.inr ⟨_, rfl, ⟨_, rfl, rfl⟩, ?_, ?_⟩)
  · exact .inr ⟨_, rfl, _, [t], rfl, .cons hgives .nil, Form.merged_iff.2 rfl⟩
  · intro field hfield
    rcases List.mem_pair.1 hfield with rfl | rfl
    · exact ⟨_, List.mem_cons_self, rfl⟩
    · exact ⟨_, List.mem_cons_of_mem _ List.mem_cons_self, rfl⟩

/-- Letters with blanks behind them. -/
theorem build_of_loaded_letters :
    (leftAligned "a+".toList).objects = [] ∧
    ∃ d, ofConfig "config".toList (leftAligned "a+".toList) = .ok d ∧
      (∀ t ∈ d.targets, t.2.Embeds) ∧ ∃ form, d.build = .ok form := by
  let r : Regex := ⟨"a+".toList, .chars (.literal 97 false .exact) 1 none .greedy⟩
  have hload := ofConfig_leftAligned (r := r) (by decide +kernel) (by decide +kernel)
  have hflags : Regex.ownFlags r.source = .none := by decide +kernel
  have hembeds : ∀ t ∈ [("A".toList, (⟨⟨.left, 4, ' '⟩, .text r⟩ : Format))], t.2.Embeds := by
    intro t ht
    obtain rfl := List.mem_singleton.1 ht
    exact .inr hflags
  have hbuilt := build_of_loaded _ _ _ (fun _ ho => absurd ho List.not_mem_nil) hload
  exact ⟨rfl, _, hload, hembeds, hbuilt.1.2 hembeds⟩

/-- An expression that sets flags for all of itself is accepted, but not beside its padding. -/
theorem flags_misplaced :
    ∃ d, ofConfig "config".toList (leftAligned "(?i)a+".toList) = .ok d ∧
      d.build = .error ⟨"(?:(?i)a+)(?:\\ )*".toList, .malformed .misplacedFlags (some 3)⟩ := by
  let r : Regex := ⟨"(?i)a+".toList, .chars (.literal 97 false .unicode) 1 none .greedy⟩
  have hload := ofConfig_leftAligned (r := r) (by decide +kernel) (by decide +kernel)
  have hpattern : Format.pattern ⟨⟨.left, 4, ' '⟩, .text r⟩ =
      .error ⟨"(?:(?i)a+)(?:\\ )*".toList, .malformed .misplacedFlags (some 3)⟩ := by decide +kernel
  refine ⟨_, hload, ?_⟩
  change (Form.patterns [("A".toList, ⟨⟨.left, 4, ' '⟩, .text r⟩)] >>= _) = _
  rw [Form.patterns, hpattern]
  rfl

end Definition
end Stencil
