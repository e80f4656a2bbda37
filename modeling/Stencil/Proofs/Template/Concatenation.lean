import Stencil.Proofs.Template.Resolution

/-! # Templates put together

If no target stands across the place where two texts meet, the two texts put together are cut like each
of them alone.  The text that is left over at the end of the first one goes in front of what follows,
and the text that is written is what is written for both, one behind the other.
-/
namespace Stencil
open Occurrence

/-- The blocks of two templates, one behind the other.  The final text of the first template goes in
front of the next static text. -/
def Template.append (s t : Template) : Template :=
  match t.blocks with
  | [] => { s with final := s.final ++ t.final }
  | b :: rest =>
    { s with
      blocks := s.blocks ++ { b with static := s.final ++ b.static } :: rest
      final := t.final }

namespace Template

theorem append_cons (b : Block) (blocks : List Block) (final : Text) (targets : List Text)
    (t : Template) :
    append ⟨b :: blocks, final, targets⟩ t =
      { append ⟨blocks, final, targets⟩ t with
        blocks := b :: (append ⟨blocks, final, targets⟩ t).blocks } := by
  unfold append
  split <;> rfl

theorem assemble_append {fill : Int → Except DanglingIndex Text} {final : Text}
    {blocks : List Block} {targets : List Text} {t : Template} {w w' : Text}
    (h : assemble fill final blocks = .ok w) (h' : assemble fill t.final t.blocks = .ok w') :
    assemble fill (append ⟨blocks, final, targets⟩ t).final
      (append ⟨blocks, final, targets⟩ t).blocks = .ok (w ++ w') := by
  induction blocks generalizing w with
  | nil =>
    obtain rfl : final = w := Except.ok.inj h
    unfold append
    cases hblocks : t.blocks with
    | nil =>
      rw [hblocks] at h'
      obtain rfl : t.final = w' := Except.ok.inj h'
      rfl
    | cons b rest =>
      rw [hblocks] at h'
      obtain ⟨v, tail, hv, htail, rfl⟩ := assemble_cons_eq_ok_iff.1 h'
      rw [← List.append_assoc]
      exact assemble_cons_of_ok hv htail
  | cons b blocks ih =>
    obtain ⟨v, tail, hv, htail, rfl⟩ := assemble_cons_eq_ok_iff.1 h
    rw [append_cons, List.append_assoc, List.append_assoc]
    exact assemble_cons_of_ok hv (ih htail)

/-- What is written for two templates put together. -/
theorem write_append {s t : Template} {values : List Text} {w w' : Text}
    (h : s.write values = .ok w) (h' : t.write values = .ok w') :
    (s.append t).write values = .ok (w ++ w') :=
  assemble_append h h'

namespace Candidate

/-- The same candidate once `n` characters stand in front of the text. -/
def shift (n : Nat) (c : Candidate) : Candidate := (c.1, c.2.shift n)

theorem Precedes.shift {c d : Candidate} (h : c.Precedes d) (n : Nat) :
    (c.shift n).Precedes (d.shift n) := by
  simp only [Precedes, Candidate.shift, Span.shift] at h ⊢
  omega

end Candidate

section Cut
variable (targets : List Text) (first second : Text)

theorem cut_shift (n : Nat) (cs : List Candidate) (here : Nat) (text : Text) :
    cut (n + here) text (cs.map (Candidate.shift n)) = cut here text cs := by
  induction cs generalizing here text with
  | nil => rfl
  | cons c rest ih =>
    simp [cut, Candidate.shift, Span.shift, Nat.add_sub_add_left, ← ih]

/-- Cutting two texts put together, where no candidate is left in the first one. -/
theorem append_cut_nil (here : Nat) (ds : List Candidate) :
    append ⟨[], first, targets⟩ ⟨(cut 0 second ds).1, (cut 0 second ds).2, targets⟩ =
      ⟨(cut here (first ++ second) (ds.map (Candidate.shift (here + first.length)))).1,
        (cut here (first ++ second) (ds.map (Candidate.shift (here + first.length)))).2,
        targets⟩ := by
  cases ds with
  | nil => rfl
  | cons d ds =>
    have hstart : ¬ here + first.length + d.2.start < here := by omega
    have htake : here + first.length + d.2.start - here = first.length + d.2.start := by omega
    have hdrop : here + first.length + d.2.stop - here = first.length + d.2.stop := by omega
    have hshift := cut_shift (here + first.length) ds d.2.stop (second.drop d.2.stop)
    simp only [List.map_cons, cut, Candidate.shift, Span.shift, if_neg hstart, htake, hdrop,
      List.take_length_add_append, List.drop_length_add_append, hshift]
    rfl

/-- Cutting two texts put together, where each candidate lies in one of them. -/
theorem append_cut (here : Nat) {cs : List Candidate}
    (hcs : ∀ c ∈ cs, c.2.start < c.2.stop ∧ c.2.stop ≤ here + first.length) (ds : List Candidate) :
    append ⟨(cut here first cs).1, (cut here first cs).2, targets⟩
        ⟨(cut 0 second ds).1, (cut 0 second ds).2, targets⟩ =
      ⟨(cut here (first ++ second) (cs ++ ds.map (Candidate.shift (here + first.length)))).1,
        (cut here (first ++ second) (cs ++ ds.map (Candidate.shift (here + first.length)))).2,
        targets⟩ := by
  induction cs generalizing here first with
  | nil => exact append_cut_nil targets first second here ds
  | cons c cs ih =>
    obtain ⟨hpos, hle⟩ := hcs c List.mem_cons_self
    have hrest := fun d hd => hcs d (List.mem_cons_of_mem c hd)
    by_cases hlt : c.2.start < here
    · rw [List.cons_append, cut_cons_of_lt hlt, cut_cons_of_lt hlt]
      exact ih first here hrest
    · -- what is left of the first text ends at the same offset as before
      have hend : c.2.stop + (first.drop (c.2.stop - here)).length = here + first.length := by
        rw [List.length_drop]
        omega
      have hnext := ih (first.drop (c.2.stop - here)) c.2.stop (by rwa [hend])
      rw [hend] at hnext
      have htake : (first ++ second).take (c.2.start - here) = first.take (c.2.start - here) :=
        List.take_append_of_le_length (by omega)
      have hdrop : (first ++ second).drop (c.2.stop - here) =
          first.drop (c.2.stop - here) ++ second := List.drop_append_of_le_length (by omega)
      simp only [List.cons_append, cut, if_neg hlt, htake, hdrop, append_cons, hnext]

end Cut

section Compile
variable {first second : Text} {targets : List Text}
  (hwithin : ∀ target ∈ targets, target ≠ [] → ∀ i < first.length,
    At target (first ++ second) i → i + target.length ≤ first.length)
include hwithin

/-- What the search finds in two texts put together lies in one of them and is found there. -/
theorem Candidate.found_append_iff {c : Candidate} :
    c.Found (first ++ second) targets ↔
      c.Found first targets ∨
        ∃ d : Candidate, d.Found second targets ∧ d.shift first.length = c := by
  have hall : ∀ target, targets[c.1]? = some target → all target (first ++ second) =
      all target first ++ (all target second).map (Span.shift first.length) :=
    fun target hi => all_append (hwithin target (List.mem_of_getElem? hi))
  constructor
  · rintro ⟨target, hi, hs⟩
    rw [hall target hi, List.mem_append, List.mem_map] at hs
    rcases hs with hs | ⟨s, hs, heq⟩
    · exact .inl ⟨target, hi, hs⟩
    · exact .inr ⟨(c.1, s), ⟨target, hi, hs⟩, Prod.ext rfl heq⟩
  · rintro (⟨target, hi, hs⟩ | ⟨d, ⟨target, hi, hs⟩, rfl⟩)
    · refine ⟨target, hi, ?_⟩
      rw [hall target hi]
      exact List.mem_append_left _ hs
    · refine ⟨target, hi, ?_⟩
      rw [hall target hi]
      exact List.mem_append_right _ (List.mem_map_of_mem hs)

theorem candidates_append :
    candidates (first ++ second) targets =
      candidates first targets ++ (candidates second targets).map (Candidate.shift first.length) := by
  apply candidates_eq_of_pairwise
  · rw [List.pairwise_append, List.pairwise_map]
    refine ⟨candidates_pairwise_precedes first targets, ?_, ?_⟩
    · apply (candidates_pairwise_precedes second targets).imp
      exact fun h => h.shift first.length
    · -- a candidate of the first text ends where those of the second may start
      intro c hc d hd
      obtain ⟨e, -, rfl⟩ := List.mem_map.1 hd
      have hpos := (spells_of_mem_candidates hc).start_lt_stop
      have hle := (spells_of_mem_candidates hc).stop_le
      left
      simp only [Candidate.shift, Span.shift]
      omega
  · intro c
    rw [Candidate.found_append_iff hwithin, List.mem_append, List.mem_map]
    simp only [mem_candidates, Candidate.Found]

theorem compile_append_eq :
    compile (first ++ second) targets =
      (compile first targets).append (compile second targets) := by
  have hcs : ∀ c ∈ candidates first targets,
      c.2.start < c.2.stop ∧ c.2.stop ≤ 0 + first.length := by
    intro c hc
    have hspells := spells_of_mem_candidates hc
    rw [Nat.zero_add]
    exact ⟨hspells.start_lt_stop, hspells.stop_le⟩
  have hcut := append_cut targets first second 0 hcs (candidates second targets)
  rw [Nat.zero_add, ← candidates_append hwithin] at hcut
  exact hcut.symm

end Compile

/-- If no occurrence of a target starts in the first of two texts and ends in the second, both together
are cut into the blocks of the first and then those of the second, with the final text of the first in
front of the next static text; and for all values what is written is what is written for each. -/
theorem compile_append (first second : Text) (targets : List Text)
    (hwithin : ∀ target ∈ targets, target ≠ [] → ∀ i < first.length,
      At target (first ++ second) i → i + target.length ≤ first.length) :
    compile (first ++ second) targets = (compile first targets).append (compile second targets) ∧
      ∀ values, ∃ w w', (compile first targets).write values = .ok w ∧
        (compile second targets).write values = .ok w' ∧
        (compile (first ++ second) targets).write values = .ok (w ++ w') := by
  have hcompile := compile_append_eq hwithin
  refine ⟨hcompile, fun values => ?_⟩
  have hfirst := compile_write first targets values
  have hsecond := compile_write second targets values
  refine ⟨_, _, hfirst, hsecond, ?_⟩
  rw [hcompile]
  exact write_append hfirst hsecond

/-- A target that overlaps itself leaves a character over, which goes in front of the next static
text. -/
theorem compile_append_overlapping :
    (∀ target ∈ ["aa".toList, []], target ≠ [] → ∀ i < "aaa".toList.length,
        At target ("aaa".toList ++ "b-aa".toList) i → i + target.length ≤ "aaa".toList.length) ∧
      compile ("aaa".toList ++ "b-aa".toList) ["aa".toList, []] =
        ⟨[⟨[], 0⟩, ⟨"ab-".toList, 0⟩], [], ["aa".toList, []]⟩ ∧
      (compile ("aaa".toList ++ "b-aa".toList) ["aa".toList, []]).write ["c".toList] =
        .ok "cab-c".toList := by
  have hwithin : ∀ target ∈ ["aa".toList, []], target ≠ [] → ∀ i < "aaa".toList.length,
      At target ("aaa".toList ++ "b-aa".toList) i → i + target.length ≤ "aaa".toList.length := by
    decide
  have hfirst : compile "aaa".toList ["aa".toList, []] =
      ⟨[⟨[], 0⟩], "a".toList, ["aa".toList, []]⟩ := by cbv
  have hsecond : compile "b-aa".toList ["aa".toList, []] =
      ⟨[⟨"b-".toList, 0⟩], [], ["aa".toList, []]⟩ := by cbv
  obtain ⟨hcompile, hwrite⟩ := compile_append "aaa".toList "b-aa".toList ["aa".toList, []] hwithin
  refine ⟨hwithin, ?_, ?_⟩
  · rw [hcompile, hfirst, hsecond]
    rfl
  · obtain ⟨w, w', hw, hw', hboth⟩ := hwrite ["c".toList]
    rw [hfirst] at hw
    rw [hsecond] at hw'
    obtain rfl : "ca".toList = w := Except.ok.inj hw
    obtain rfl : "b-c".toList = w' := Except.ok.inj hw'
    exact hboth

end Template
end Stencil
