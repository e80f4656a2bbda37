import Stencil.Proofs.Template.Segmentation

/-! # Which of the overlapping occurrences are kept

The occurrences that a template refers to do not overlap, and each other occurrence that the search
finds starts inside one of them that precedes it: one that starts earlier or, among those with one
start, one that is longer or whose target comes first.  No other choice of occurrences is like this.
-/
namespace Stencil.Template
open Occurrence

namespace Candidate

/-- The candidate is an occurrence of its target that the search finds. -/
def Found (text : Text) (targets : List Text) (c : Candidate) : Prop :=
  ∃ target, targets[c.1]? = some target ∧ c.2 ∈ all target text

/-- The candidate starts first or, if both start at one place, ends last or, if both are the same
stretch, has the target that comes first. -/
def Precedes (a b : Candidate) : Prop :=
  a.2.start < b.2.start ∨
    a.2.start = b.2.start ∧ (b.2.stop < a.2.stop ∨ a.2.stop = b.2.stop ∧ a.1 < b.1)

variable {text : Text} {targets : List Text} {a b c : Candidate}

theorem Found.start_lt_stop (h : c.Found text targets) : c.2.start < c.2.stop := by
  have hspells := spells_of_mem_candidates (mem_candidates.2 h)
  exact hspells.start_lt_stop

theorem Precedes.asymm (h : a.Precedes b) : ¬ b.Precedes a := by
  simp only [Precedes] at h ⊢
  omega

theorem Precedes.trans (hab : a.Precedes b) (hbc : b.Precedes c) : a.Precedes c := by
  simp only [Precedes] at *
  omega

theorem Precedes.ne (h : a.Precedes b) : a ≠ b := by
  rintro rfl
  exact h.asymm h

instance : Std.Asymm Precedes := ⟨fun _ _ => Precedes.asymm⟩

end Candidate

/-- A choice among the occurrences that the search finds: those chosen do not overlap, and each other
one starts inside a chosen one that precedes it. -/
structure Resolves (text : Text) (targets : List Text) (chosen : Set Candidate) : Prop where
  found : ∀ c ∈ chosen, c.Found text targets
  disjoint : chosen.Pairwise fun a b => ¬ a.2.Overlaps b.2
  beaten : ∀ c, c.Found text targets → c ∉ chosen →
    ∃ k ∈ chosen, k.Precedes c ∧ k.2.start ≤ c.2.start ∧ c.2.start < k.2.stop

section Candidates
variable (text : Text) (targets : List Text)

theorem nodup_candidates : (candidates text targets).Nodup := by
  rw [candidates, (List.mergeSort_perm _ _).nodup_iff, List.nodup_flatMap]
  constructor
  · intro p _
    apply List.Nodup.map (Prod.mk_right_injective p.2)
    apply (all_pairwise p.1 text).imp_of_mem
    rintro s t hs ht hst rfl
    obtain ⟨hne, -, hstop⟩ := of_mem_all hs
    have hpos := List.length_pos_iff.2 hne
    omega
  · have hindex : (targets.zipIdx.map (·.2)).Nodup := by
      rw [List.zipIdx_map_snd]
      exact List.nodup_range'
    apply (List.pairwise_map.1 hindex).imp
    intro p q hpq c hp hq
    obtain ⟨s, -, rfl⟩ := List.mem_map.1 hp
    obtain ⟨t, -, heq⟩ := List.mem_map.1 hq
    exact hpq (congrArg Prod.fst heq).symm

/-- The candidates come in their order, each one once. -/
theorem candidates_pairwise_precedes :
    (candidates text targets).Pairwise Candidate.Precedes := by
  apply ((candidates_pairwise_index text targets).and (nodup_candidates text targets)).imp
  rintro ⟨i, s⟩ ⟨j, t⟩ ⟨⟨hst, htie⟩, hne⟩
  simp only [preferred_iff, Candidate.Precedes] at *
  by_cases hspan : s = t
  · subst hspan
    have hij : i ≠ j := fun hij => hne (by rw [hij])
    have hle := htie (.inr ⟨rfl, Nat.le_refl _⟩)
    exact .inr ⟨rfl, .inr ⟨rfl, by omega⟩⟩
  · have hdiffer : s.start ≠ t.start ∨ s.stop ≠ t.stop := by
      by_contra hsame
      simp only [not_or, not_not] at hsame
      exact hspan (by cases s; cases t; simp_all)
    omega

end Candidates

/-- The candidates are the only list that has each occurrence that the search finds, in their order. -/
theorem candidates_eq_of_pairwise {text : Text} {targets : List Text} {cs : List Candidate}
    (hordered : cs.Pairwise Candidate.Precedes) (hfound : ∀ c, c ∈ cs ↔ c.Found text targets) :
    candidates text targets = cs := by
  apply List.Pairwise.eq_of_mem_iff (candidates_pairwise_precedes text targets) hordered
  intro c
  rw [hfound, mem_candidates, Candidate.Found]

section Unique
variable {text : Text} {targets : List Text} {chosen chosen' : Set Candidate}

/-- If two choices agree on all that precedes a candidate, the second one has it if the first has. -/
theorem Resolves.mem_of_mem (h : Resolves text targets chosen) (h' : Resolves text targets chosen')
    {c : Candidate}
    (hagree : ∀ k, k.Found text targets → k.Precedes c → (k ∈ chosen ↔ k ∈ chosen'))
    (hc : c ∈ chosen) : c ∈ chosen' := by
  by_contra hnot
  have hfound := h.found c hc
  obtain ⟨k, hk, hprecedes, hstart, hstop⟩ := h'.beaten c hfound hnot
  have hboth : k ∈ chosen := (hagree k (h'.found k hk) hprecedes).2 hk
  apply h.disjoint hboth hc hprecedes.ne
  exact ⟨Nat.lt_of_le_of_lt hstart hfound.start_lt_stop, hstop⟩

/-- There is at most one such choice. -/
theorem Resolves.unique (h : Resolves text targets chosen) (h' : Resolves text targets chosen') :
    chosen = chosen' := by
  have hordered := candidates_pairwise_precedes text targets
  -- by induction along the order: a candidate that precedes the one at place `n` has a place before
  have hagree : ∀ (n : Nat) (c : Candidate), (candidates text targets)[n]? = some c →
      (c ∈ chosen ↔ c ∈ chosen') := by
    intro n
    induction n using Nat.strong_induction_on with
    | _ n ih =>
      intro c hc
      have hbefore : ∀ k, k.Found text targets → k.Precedes c → (k ∈ chosen ↔ k ∈ chosen') := by
        intro k hk hprecedes
        obtain ⟨m, hm⟩ := List.mem_iff_getElem?.1 (mem_candidates.2 hk)
        apply ih m _ k hm
        by_contra hle
        obtain ⟨hmlt, rfl⟩ := List.getElem?_eq_some_iff.1 hm
        obtain ⟨hnlt, rfl⟩ := List.getElem?_eq_some_iff.1 hc
        rcases Nat.eq_or_lt_of_le (Nat.le_of_not_lt hle) with rfl | hlt
        · exact hprecedes.ne rfl
        · exact hprecedes.asymm (List.pairwise_iff_getElem.1 hordered n m hnlt hmlt hlt)
      constructor
      · exact h.mem_of_mem h' hbefore
      · exact h'.mem_of_mem h fun k hk hprecedes => (hbefore k hk hprecedes).symm
  ext c
  constructor
  · intro hc
    obtain ⟨n, hn⟩ := List.mem_iff_getElem?.1 (mem_candidates.2 (h.found c hc))
    exact (hagree n c hn).1 hc
  · intro hc
    obtain ⟨n, hn⟩ := List.mem_iff_getElem?.1 (mem_candidates.2 (h'.found c hc))
    exact (hagree n c hn).2 hc

/-- Of occurrences at one stretch, only the one whose target comes first is chosen. -/
theorem Resolves.index_le (h : Resolves text targets chosen) {c d : Candidate} (hc : c ∈ chosen)
    (hd : d.Found text targets) (hspan : d.2 = c.2) : c.1 ≤ d.1 := by
  by_contra hlt
  have hpos := (h.found c hc).start_lt_stop
  have hprecedes : d.Precedes c := by simp [Candidate.Precedes, hspan, Nat.lt_of_not_le hlt]
  by_cases hmem : d ∈ chosen
  · apply h.disjoint hmem hc hprecedes.ne
    rw [hspan]
    exact ⟨hpos, hpos⟩
  · obtain ⟨k, hk, hkd, hstart, hstop⟩ := h.beaten d hd hmem
    rw [hspan] at hstart hstop
    apply h.disjoint hk hc (hkd.trans hprecedes).ne
    exact ⟨Nat.lt_of_le_of_lt hstart hpos, hstop⟩

end Unique

/-- The winners are such a choice. -/
theorem resolves_winners (text : Text) (targets : List Text) :
    Resolves text targets {c | c ∈ winners 0 (candidates text targets)} where
  found c hc := mem_candidates.1 ((winners_sublist 0 _).subset hc)
  disjoint := by
    have hpos : ∀ c ∈ candidates text targets, c.2.start < c.2.stop :=
      fun c hc => (spells_of_mem_candidates hc).start_lt_stop
    have hsymm : Std.Symm fun a b : Candidate => ¬ a.2.Overlaps b.2 :=
      ⟨fun a b hab hba => hab hba.symm⟩
    apply List.Pairwise.set_pairwise
    apply (winners_disjoint hpos 0).imp
    intro a b hab hoverlap
    exact Nat.not_le.2 hoverlap.2 hab
  beaten c hc hnot := by
    have hordered := candidates_pairwise_precedes text targets
    rcases mem_winners_or_exists hordered (mem_candidates.2 hc) (Nat.zero_le _) with
      hwins | ⟨w, hw, hprecedes, hstop⟩
    · exact absurd hwins hnot
    · refine ⟨w, hw, hprecedes, ?_, hstop⟩
      simp only [Candidate.Precedes] at hprecedes
      omega

/-- The references of a template, from left to right, are the occurrences of the one choice among those
that the search finds that resolves their overlaps. -/
theorem references_resolve (text : Text) (targets : List Text) :
    ∃ kept : List Candidate,
      (compile text targets).references = kept.map (fun c => ((c.1 : Int), c.2)) ∧
        kept.Pairwise Candidate.Precedes ∧
          Resolves text targets {c | c ∈ kept} ∧
            ∀ chosen, Resolves text targets chosen → chosen = {c | c ∈ kept} := by
  have hresolves := resolves_winners text targets
  refine ⟨_, compile_references text targets, ?_, hresolves, fun chosen h => h.unique hresolves⟩
  exact (candidates_pairwise_precedes text targets).sublist (winners_sublist 0 _)

end Stencil.Template
