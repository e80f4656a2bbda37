import Stencil.Proofs.Format.Integer
import Stencil.Proofs.Format.Text
import Stencil.Proofs.Template.Lockstep

/-! # Values in front of other text

A value is found again in front of text that cannot go on with it.  For an integer this is neither a
digit nor padding, for a run of characters that are no blanks it is a blank.
-/
namespace Stencil.Format
open Regex (Tree CharTest)
open Regex.Parse (atom_escape escape_category sign_star ReadsTrees)
open Kind

/-- An aligned integer of a width that can be padded to, or a run of characters that are no blanks,
not aligned. -/
inductive Delimited : Format → Prop
  | integer {a : Alignment} {base : Nat} (hwidth : a.width < Alignment.widthLimit) :
    Delimited ⟨a, .integer base⟩
  | run {a : Alignment} {r : Regex} (hkind : a.kind = .none) (hsource : r.source = defaultExpression) :
    Delimited ⟨a, .text r⟩

/-- The values of a delimited format: integers that are not too long to be read, texts without
blanks. -/
inductive Holds : Format → Value → Prop
  | integer {a : Alignment} {base : Nat} {n : Int} (hn : n.natAbs < base ^ Numeral.digitLimit) :
    Holds ⟨a, .integer base⟩ (.int n)
  | run {a : Alignment} {r : Regex} {t : Text} (ht : ∀ c ∈ t, Text.isBlank c = false) :
    Holds ⟨a, .text r⟩ (.text t)

/-- The characters that may stand behind a value of a delimited format. -/
def Ends (f : Format) (c : Char) : Prop :=
  match f.kind with
  | .integer base => EndsNumeral f.alignment base c
  | .real .. => False
  | .text _ => Text.isBlank c = true

namespace Kind

/-- Characters that are no blanks, as many as there are. -/
def runTrees : List Tree := [.chars (.set [.category .blank true false] false .exact) 0 none .greedy]

theorem readsTrees_run : ReadsTrees defaultExpression runTrees :=
  (atom_escape (escape_category rfl)).readsTrees_quantified (by simp)
    (Regex.CharTest.settle_set _ _) sign_star

theorem isPlain_runTrees : ∀ t ∈ runTrees, t.isPlain = true := by simp [runTrees, Tree.isPlain]

theorem holds_run_iff {c : Char} :
    (CharTest.set [.category .blank true false] false .exact).holds c = true ↔
      Text.isBlank c = false := by
  simp [CharTest.holds, Regex.SetItem.holds, Regex.Category.holds, Text.isBlank]

theorem takes_run {t rest : Text} (ht : ∀ c ∈ t, Text.isBlank c = false)
    (hrest : ∀ c ∈ rest.head?, Text.isBlank c = true) : (Tree.ofList runTrees).Takes t rest := by
  refine Tree.takes_greedy (Nat.zero_le _) (Regex.runLength_append ?_ ?_ nofun)
  · intro c hc
    exact holds_run_iff.2 (ht c hc)
  · intro c hc
    rw [← Bool.not_eq_true, holds_run_iff, hrest c hc]
    simp

end Kind

/-- A format of runs is the one that its expression is compiled to. -/
theorem eq_of_accepted_run {a : Alignment} {r : Regex} (h : Accepted ⟨a, .text r⟩)
    (hsource : r.source = defaultExpression) : r = ⟨defaultExpression, .ofList runTrees⟩ := by
  have hcompile : Regex.compile r.source = .ok r := h.inRange
  rw [hsource, readsTrees_run.compile_eq] at hcompile
  exact (Except.ok.inj hcompile).symm

theorem matched_toPattern {r : Regex} (hplain : r.tree.isPlain = true) {u v : Text}
    (h : r.tree.Takes u v) : r.toPattern.matched (u ++ v) = some u := by
  have hlength : r.toPattern.matchLength (u ++ v) = some u.length :=
    Regex.matchLength_of_takes hplain h
  rw [Pattern.matched, hlength, Option.map_some, List.take_left]

/-- The pattern finds a padded numeral in front of text that ends it. -/
theorem matched_padded_numeral {a : Alignment} {base : Nat} (h : Accepted ⟨a, .integer base⟩)
    {r : Regex} (hr : pattern ⟨a, .integer base⟩ = .ok r) (v : Int) {rest : Text}
    (hrest : ∀ c ∈ rest.head?, EndsNumeral a base c) :
    r.toPattern.matched (a.padded (Numeral.numeral base v) ++ rest) =
      some (a.padded (Numeral.numeral base v)) := by
  obtain ⟨h2, h36⟩ := h.inRange
  obtain rfl := Except.ok.inj ((pattern_eq (readsTrees_integer h2 h36)).symm.trans hr)
  apply matched_toPattern (isPlain_integerPattern a base)
  apply takes_padded_numeral h
  · exact fun c hc => (hrest c hc).1
  · exact fun hpads c hc => (hrest c hc).2.1 hpads
  · exact not_runsOn_of_ends hrest v

/-- A value of an accepted delimited format is written, its text is read back, and the pattern finds
it in front of text that ends it. -/
theorem Delimited.exists_pattern {f : Format} (hdelimited : f.Delimited) (h : f.Accepted) :
    ∃ r, f.pattern = .ok r ∧ ∀ v, f.Holds v → ∃ t, f.write v = .ok t ∧ f.read t = .ok v ∧
      ∀ rest, (∀ c ∈ rest.head?, f.Ends c) → r.toPattern.matched (t ++ rest) = some t := by
  cases hdelimited with
  | @integer a base hwidth =>
    obtain ⟨h2, h36⟩ := h.inRange
    have hr := pattern_eq (f := ⟨a, .integer base⟩) (readsTrees_integer h2 h36)
    refine ⟨_, hr, ?_⟩
    rintro v (@⟨_, _, n, hn⟩)
    exact ⟨a.padded (Numeral.numeral base n), write_integer h hwidth n, read_padded_numeral h hn,
      fun rest hrest => matched_padded_numeral h hr n hrest⟩
  | @run a r hkind hsource =>
    obtain rfl := eq_of_accepted_run h hsource
    have haround : a.around defaultExpression = defaultExpression := if_pos hkind
    refine ⟨⟨defaultExpression, .ofList runTrees⟩, ?_, ?_⟩
    · rw [pattern]
      change Regex.compile (a.around defaultExpression) = _
      rw [haround, readsTrees_run.compile_eq]
    · rintro v (_ | @⟨_, _, t, ht⟩)
      have hpadded : a.padded t = t := by simp [Alignment.padded, Alignment.margins, hkind]
      have hbare : a.Bare t := by
        simp [Alignment.Bare, hkind]
      have hdescribes : (Kind.text ⟨defaultExpression, .ofList runTrees⟩).describes t = true :=
        (describes_iff (k := .text ⟨defaultExpression, .ofList runTrees⟩) readsTrees_run
          isPlain_runTrees t).2 ⟨Nat.zero_le _, by simp, fun c hc => holds_run_iff.2 (ht c hc)⟩
      have hunpad := (unpad_padded_eq_self_iff h hdescribes).2 hbare
      rw [hpadded] at hunpad
      refine ⟨t, ?_, ?_, fun rest hrest => ?_⟩
      · refine bind_eq_ok_iff.2 ⟨t, rfl, mapError_eq_ok_iff.2 ?_⟩
        rw [Alignment.pad, if_neg fun hwide => hwide.1 hkind, hpadded]
      · rw [Format.read, hunpad]
        rfl
      · exact matched_toPattern (Tree.isPlain_ofList isPlain_runTrees) (takes_run ht hrest)

end Stencil.Format
