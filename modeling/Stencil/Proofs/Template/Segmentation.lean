import Stencil.Proofs.Template.Layout

/-! # What cutting a text keeps

A template that is cut from a text loses nothing of it, and each occurrence that the search finds
starts inside a reference.  An occurrence that the search leaves out, because it overlaps an earlier
one of the same target, can stay in a static text; then the earlier one reaches into the static text
from a place before it.  A target that cannot overlap itself never stays.
-/
namespace Stencil.Template
open Occurrence

section Compile
variable (text : Text) (targets : List Text)

theorem compile_source : (compile text targets).source = .ok text := by
  rw [source_eq]
  exact assemble_cut (fun _ => spells_of_mem_candidates) 0

theorem compile_references :
    (compile text targets).references =
      (winners 0 (candidates text targets)).map fun c => ((c.1 : Int), c.2) :=
  referencesFrom_cut (fun _ => spells_of_mem_candidates) 0

end Compile

variable {text : Text} {targets : List Text}

/-- Each reference of a text that was cut is to the target of a winner. -/
theorem exists_winner_of_mem_cut {here : Nat} {cs : List Candidate} {b : Block}
    (hb : b ∈ (cut here text cs).1) : ∃ c ∈ winners here cs, b.target = c.1 := by
  induction cs generalizing here text with
  | nil => simp [cut] at hb
  | cons c rest ih =>
    by_cases hlt : c.2.start < here
    · rw [cut_cons_of_lt hlt] at hb
      rw [winners, if_pos hlt]
      exact ih hb
    · rw [cut, if_neg hlt] at hb
      rw [winners, if_neg hlt]
      rcases List.mem_cons.1 hb with rfl | hb
      · exact ⟨c, List.mem_cons_self, rfl⟩
      · obtain ⟨d, hd, heq⟩ := ih hb
        exact ⟨d, List.mem_cons_of_mem c hd, heq⟩

/-- Each reference of a template that was cut is to a target that is not empty. -/
theorem exists_target_of_mem_blocks {b : Block} (hb : b ∈ (compile text targets).blocks) :
    ∃ i : Nat, b.target = i ∧ ∃ h : i < targets.length, targets[i] ≠ [] := by
  obtain ⟨c, hc, heq⟩ := exists_winner_of_mem_cut hb
  obtain ⟨target, hi, hne, -, -⟩ := spells_of_mem_candidates ((winners_sublist 0 _).subset hc)
  obtain ⟨hlt, rfl⟩ := List.getElem?_eq_some_iff.1 hi
  exact ⟨c.1, heq, hlt, hne⟩

theorem nonneg_of_mem_blocks (b : Block) (hb : b ∈ (compile text targets).blocks) :
    0 ≤ b.target := by
  obtain ⟨i, hi, -⟩ := exists_target_of_mem_blocks hb
  exact hi ▸ Int.natCast_nonneg i

/-- Filling out a template that was cut never fails. -/
theorem compile_write (text : Text) (targets values : List Text) :
    (compile text targets).write values =
      .ok (weave (compile text targets).final (compile text targets).blocks
        ((compile text targets).blocks.map fun b => valueAt values b.target)) :=
  write_eq_weave nonneg_of_mem_blocks values

/-- Every reference is to a target that is not empty, and both the source and the template filled
out with its own targets are the text that was cut. -/
theorem compile_lossless (text : Text) (targets : List Text) :
    (∀ b ∈ (compile text targets).blocks, 0 ≤ b.target ∧ b.target < targets.length ∧
      ∃ target, getSigned? targets b.target = some target ∧ target ≠ []) ∧
    (compile text targets).source = .ok text ∧
    (compile text targets).write targets = .ok text := by
  refine ⟨fun b hb => ?_, compile_source text targets, ?_⟩
  · obtain ⟨i, heq, hlt, hne⟩ := exists_target_of_mem_blocks hb
    rw [heq, getSigned_natCast, List.getElem?_eq_getElem hlt]
    exact ⟨Int.natCast_nonneg i, Int.ofNat_lt.2 hlt, targets[i], rfl, hne⟩
  · rw [← compile_source text targets]
    refine assemble_congr fun b hb => ?_
    obtain ⟨i, heq, hlt, -⟩ := exists_target_of_mem_blocks hb
    rw [heq, if_pos (Int.ofNat_lt.2 hlt)]
    change (getSigned? targets i).elim _ _ = (getSigned? targets i).elim _ _
    rw [getSigned_natCast, List.getElem?_eq_getElem hlt]
    rfl

/-- Of two targets that overlap each other, each wins once. -/
theorem compile_lossless_overlapping :
    (⟨"-".toList, 0⟩ : Block) ∈ (compile "ab-abc".toList ["abc".toList, "ab".toList]).blocks ∧
      ∃ target, getSigned? ["abc".toList, "ab".toList] 0 = some target ∧ target ≠ [] :=
  have hblocks : (compile "ab-abc".toList ["abc".toList, "ab".toList]).blocks =
      [⟨[], 1⟩, ⟨"-".toList, 0⟩] := by cbv
  have hmem : (⟨"-".toList, 0⟩ : Block) ∈
      (compile "ab-abc".toList ["abc".toList, "ab".toList]).blocks := by
    rw [hblocks]
    decide
  ⟨hmem, ((compile_lossless _ _).1 _ hmem).2.2⟩

/-- An occurrence that the search finds starts inside a reference. -/
theorem exists_reference_of_mem_all {target : Text} (ht : target ∈ targets) {s : Span Nat}
    (hs : s ∈ all target text) :
    ∃ r ∈ (compile text targets).references, r.2.start ≤ s.start ∧ s.start < r.2.stop := by
  obtain ⟨i, hi⟩ := List.mem_iff_getElem?.1 ht
  have hpos : ∀ c ∈ candidates text targets, c.2.start < c.2.stop :=
    fun c hc => (spells_of_mem_candidates hc).start_lt_stop
  have hc : (i, s) ∈ candidates text targets := mem_candidates.2 ⟨target, hi, hs⟩
  obtain ⟨w, hw, hstart, hstop⟩ :=
    exists_mem_winners hpos (candidates_ordered text targets) hc (Nat.zero_le _)
  refine ⟨((w.1 : Int), w.2), ?_, hstart, hstop⟩
  rw [compile_references]
  exact List.mem_map.2 ⟨w, hw, rfl⟩

/-- What stands in a static text stands in the text that was cut. -/
theorem at_of_at_staticText {target : Text} {p : Nat × Text}
    (hp : p ∈ (compile text targets).staticTexts) {j : Nat} (hat : At target p.2 j) :
    At target text (p.1 + j) :=
  at_drop.1 (hat.mono (isPrefix_of_mem_staticTexts (compile_source text targets) hp))

/-- A target can stand in a static text only inside a place where the search found it before, at a
start in front of that text. -/
theorem exists_straddling {target : Text} (ht : target ∈ targets) (hne : target ≠ [])
    {p : Nat × Text} (hp : p ∈ (compile text targets).staticTexts) {j : Nat}
    (hat : At target p.2 j) :
    ∃ s ∈ all target text, s.start < p.1 ∧ p.1 + j < s.stop := by
  obtain ⟨s, hs, hstart, hstop⟩ := exists_mem_all hne (at_of_at_staticText hp hat)
  obtain ⟨r, hr, hrs, hsr⟩ := exists_reference_of_mem_all ht hs
  have hlen := hat.length_le hne
  have hpos := List.length_pos_iff.2 hne
  refine ⟨s, hs, ?_, hstop⟩
  rcases references_avoid_staticTextsFrom hr hp with hle | hle
  · omega
  · omega

/-- Every occurrence of a target overlaps a reference, or starts inside an earlier occurrence of that
target that the search found and that overlaps one.  What stands of a target in a static text belongs
to such an earlier occurrence, which starts in front of that text, so a target that cannot overlap
itself is in no static text. -/
theorem occurrences_covered (text : Text) (targets : List Text) (target : Text)
    (ht : target ∈ targets) (hne : target ≠ []) :
    (∀ i, At target text i →
      (∃ r ∈ (compile text targets).references, r.2.Overlaps ⟨i, i + target.length⟩) ∨
      ∃ s ∈ all target text, s.start < i ∧ i < s.stop ∧
        ∃ r ∈ (compile text targets).references, r.2.Overlaps s) ∧
    (∀ p ∈ (compile text targets).staticTexts, ∀ j, At target p.2 j →
      ∃ s ∈ all target text, s.start < p.1 ∧ p.1 + j < s.stop) ∧
    (¬ Bordered target →
      ∀ static ∈ (compile text targets).blocks.map (·.static) ++ [(compile text targets).final],
        ¬ target <:+: static) := by
  refine ⟨fun i hat => ?_, fun p hp j hat => exists_straddling ht hne hp hat, ?_⟩
  · obtain ⟨s, hs, hstart, hstop⟩ := exists_mem_all hne hat
    obtain ⟨r, hr, hrs, hsr⟩ := exists_reference_of_mem_all ht hs
    have hoverlap : r.2.Overlaps s := ⟨by omega, hsr⟩
    rcases Nat.eq_or_lt_of_le hstart with rfl | hlt
    · obtain ⟨-, -, hlen⟩ := of_mem_all hs
      exact .inl ⟨r, hr, hlen ▸ hoverlap⟩
    · exact .inr ⟨s, hs, hlt, hstop, r, hr, hoverlap⟩
  · intro hborder static hstatic hinfix
    rw [← staticTextsFrom_map_snd 0] at hstatic
    obtain ⟨p, hp, rfl⟩ := List.mem_map.1 hstatic
    obtain ⟨j, hat⟩ := infix_iff_exists_at.1 hinfix
    obtain ⟨s, hs, hstart, hstop⟩ := exists_straddling ht hne hp hat
    obtain ⟨-, hfound, hlen⟩ := of_mem_all hs
    exact hborder (bordered_of_at hfound (at_of_at_staticText hp hat) (by omega) (by omega))

/-- The second `aba` is hidden by the first one, which loses to `xa`. -/
theorem occurrences_covered_hidden :
    "aba".toList ∈ ["xa".toList, "aba".toList] ∧ "aba".toList ≠ [] ∧
      (2, "baba".toList) ∈ (compile "xababa".toList ["xa".toList, "aba".toList]).staticTexts ∧
      At "aba".toList "baba".toList 1 ∧
      (∃ s ∈ all "aba".toList "xababa".toList, s.start < 2 ∧ 2 + 1 < s.stop) ∧
      ¬ Bordered "xa".toList ∧ ¬ "xa".toList <:+: "baba".toList :=
  have hstatic : (compile "xababa".toList ["xa".toList, "aba".toList]).staticTexts =
      [(0, []), (2, "baba".toList)] := by cbv
  have hmem : (2, "baba".toList) ∈
      (compile "xababa".toList ["xa".toList, "aba".toList]).staticTexts := by
    rw [hstatic]
    decide
  have hfinal : (compile "xababa".toList ["xa".toList, "aba".toList]).final = "baba".toList := by
    cbv
  have hat : At "aba".toList "baba".toList 1 := by decide
  have hborder : ¬ Bordered "xa".toList := by decide
  ⟨by decide, by decide, hmem, hat,
    (occurrences_covered _ _ "aba".toList (by decide) (by decide)).2.1 _ hmem 1 hat, hborder,
    (occurrences_covered "xababa".toList ["xa".toList, "aba".toList] "xa".toList (by decide)
      (by decide)).2.2 hborder _ (List.mem_append_right _ (List.mem_singleton.2 hfinal.symm))⟩

/-- A target that overlaps itself can stay in a static text. -/
theorem target_in_static_text :
    ¬ ∀ (text : Text) (targets : List Text), ∀ target ∈ targets, target ≠ [] →
      ∀ static ∈ (compile text targets).blocks.map (·.static) ++ [(compile text targets).final],
        ¬ target <:+: static := by
  intro h
  have hfinal : (compile "xababa".toList ["xa".toList, "aba".toList]).final = "baba".toList := by
    cbv
  refine h "xababa".toList ["xa".toList, "aba".toList] "aba".toList (by decide) (by decide)
    "baba".toList ?_ ⟨['b'], [], by decide⟩
  exact List.mem_append_right _ (List.mem_singleton.2 hfinal.symm)

end Stencil.Template
