import Stencil.Proofs.Template.Resolution

/-! # Targets that no block refers to

A target that no block refers to can be left out: the occurrences that lose leave no trace in the
template.  The other targets keep their order, so the blocks stay as they are but for the indices of
their references.  Of equal targets only the first one is ever referred to.
-/
namespace Stencil

/-- The block with another index for its reference. -/
def Block.reindex (f : Nat → Nat) (b : Block) : Block := { b with target := f b.target.toNat }

namespace Template
open Occurrence

section Without
variable (lost : Nat → Prop) [DecidablePred lost]

/-- The targets without those at the lost indices. -/
def without (targets : List Text) : List Text :=
  (targets.zipIdx.filter fun p => ¬ lost p.2).map (·.1)

/-- The index of a target once the lost ones are left out: as many as are kept in front of it. -/
def newIndex (i : Nat) : Nat := Nat.count (fun k => ¬ lost k) i

theorem without_cons (first : Text) (targets : List Text) :
    without lost (first :: targets) =
      if lost 0 then without (fun k => lost (k + 1)) targets
      else first :: without (fun k => lost (k + 1)) targets := by
  have hrest : ((targets.zipIdx 1).filter fun p => ¬ lost p.2).map (·.1) =
      without (fun k => lost (k + 1)) targets := by
    rw [without, List.zipIdx_succ, List.filter_map, List.map_map]
    rfl
  rw [without, List.zipIdx_cons, List.filter_cons]
  by_cases h : lost 0
  · simpa [h] using hrest
  · simpa [h] using hrest

@[simp] theorem newIndex_zero : newIndex lost 0 = 0 := Nat.count_zero _

theorem newIndex_succ (i : Nat) :
    newIndex lost (i + 1) = newIndex (fun k => lost (k + 1)) i + if lost 0 then 0 else 1 := by
  simp [newIndex, Nat.count_succ']

/-- The targets that are kept stand at their new indices, and nothing else does. -/
theorem getElem?_without {targets : List Text} {target : Text} {j : Nat} :
    (without lost targets)[j]? = some target ↔
      ∃ i, ¬ lost i ∧ newIndex lost i = j ∧ targets[i]? = some target := by
  induction targets generalizing lost j with
  | nil => simp [without]
  | cons first targets ih =>
    rw [without_cons, ← Nat.or_exists_add_one]
    by_cases h : lost 0
    · simp [h, newIndex_succ, ih]
    · cases j with
      | zero => simp [h, newIndex_succ]
      | succ j => simp [h, newIndex_succ, ih]

end Without

section Candidates
variable {lost : Nat → Prop} [DecidablePred lost]

theorem Candidate.Precedes.reindex {c d : Candidate} (h : c.Precedes d) (hc : ¬ lost c.1) :
    Candidate.Precedes (newIndex lost c.1, c.2) (newIndex lost d.1, d.2) := by
  have hindex : c.1 < d.1 → newIndex lost c.1 < newIndex lost d.1 := Nat.count_strict_mono hc
  simp only [Candidate.Precedes] at h ⊢
  omega

/-- Leaving out targets takes their candidates away and leaves the others in their order. -/
theorem candidates_without (text : Text) (targets : List Text) :
    candidates text (without lost targets) =
      ((candidates text targets).filter fun c => ¬ lost c.1).map
        fun c => (newIndex lost c.1, c.2) := by
  apply candidates_eq_of_pairwise
  · rw [List.pairwise_map]
    have hordered := (candidates_pairwise_precedes text targets).filter fun c => ¬ lost c.1
    apply hordered.imp_of_mem
    intro c d hc _ hcd
    exact hcd.reindex (by simpa using (List.mem_filter.1 hc).2)
  · rintro ⟨j, s⟩
    simp only [List.mem_map, List.mem_filter, mem_candidates, Candidate.Found, getElem?_without]
    constructor
    · rintro ⟨⟨i, s'⟩, ⟨⟨target, hi, hs⟩, hkept⟩, heq⟩
      obtain ⟨rfl, rfl⟩ := Prod.mk.inj heq
      exact ⟨target, ⟨i, by simpa using hkept, rfl, hi⟩, hs⟩
    · rintro ⟨target, ⟨i, hkept, rfl, hi⟩, hs⟩
      exact ⟨(i, s), ⟨⟨target, hi, hs⟩, by simpa using hkept⟩, rfl⟩

/-- Candidates for targets that no block refers to can be passed over before. -/
theorem cut_filter {cs : List Candidate} {here : Nat} {text : Text}
    (hlost : ∀ i, lost i → ∀ b ∈ (cut here text cs).1, b.target ≠ i) :
    cut here text (cs.filter fun c => ¬ lost c.1) = cut here text cs := by
  induction cs generalizing here text with
  | nil => rfl
  | cons c rest ih =>
    by_cases hlt : c.2.start < here
    · rw [cut_cons_of_lt hlt] at hlost ⊢
      by_cases hc : lost c.1
      · simpa [hc] using ih hlost
      · simpa [hc, cut_cons_of_lt hlt] using ih hlost
    · -- the candidate wins, so it is not one for a lost target
      rw [cut, if_neg hlt] at hlost
      have hc : ¬ lost c.1 := fun hc => hlost c.1 hc _ List.mem_cons_self rfl
      have hrest := ih fun i hi b hb => hlost i hi b (List.mem_cons_of_mem _ hb)
      rw [List.filter_cons_of_pos (by simpa using hc), cut, cut, if_neg hlt, if_neg hlt, hrest]

theorem cut_reindex (f : Nat → Nat) (cs : List Candidate) (here : Nat) (text : Text) :
    cut here text (cs.map fun c => (f c.1, c.2)) =
      ((cut here text cs).1.map (Block.reindex f), (cut here text cs).2) := by
  induction cs generalizing here text with
  | nil => rfl
  | cons c rest ih =>
    rw [List.map_cons, cut, cut]
    split
    · exact ih here text
    · simp [ih, Block.reindex]

end Candidates

section Compile
variable {text : Text} {targets : List Text} {lost : Nat → Prop} [DecidablePred lost]

theorem compile_without (hlost : ∀ i, lost i → ∀ b ∈ (compile text targets).blocks, b.target ≠ i) :
    compile text (without lost targets) =
      ⟨(compile text targets).blocks.map (Block.reindex (newIndex lost)),
        (compile text targets).final, without lost targets⟩ := by
  rw [compile, candidates_without, cut_reindex, cut_filter hlost]
  rfl

/-- The new reference of a block is to the same target. -/
theorem getSigned_reindex (hlost : ∀ i, lost i → ∀ b ∈ (compile text targets).blocks, b.target ≠ i)
    {b : Block} (hb : b ∈ (compile text targets).blocks) :
    getSigned? (without lost targets) (b.reindex (newIndex lost)).target =
      getSigned? targets b.target := by
  obtain ⟨i, hi, hlt, -⟩ := exists_target_of_mem_blocks hb
  have hkept : ¬ lost i := fun hlose => hlost i hlose b hb hi
  have htarget : targets[i]? = some targets[i] := List.getElem?_eq_getElem hlt
  rw [Block.reindex, hi, getSigned_natCast, getSigned_natCast, Int.toNat_natCast, htarget]
  exact (getElem?_without lost).2 ⟨i, hkept, rfl, htarget⟩

/-- No block refers to a target that also stands at a lower index. -/
theorem getSigned_ne_of_lt {b : Block} (hb : b ∈ (compile text targets).blocks) {j : Nat}
    (hj : j < b.target) : getSigned? targets j ≠ getSigned? targets b.target := by
  obtain ⟨c, hc, hi⟩ := exists_winner_of_mem_cut hb
  obtain ⟨target, htarget, hs⟩ := (resolves_winners text targets).found c hc
  rw [hi, getSigned_natCast, getSigned_natCast, htarget]
  intro hsame
  have hfound : Candidate.Found text targets (j, c.2) := ⟨target, hsame, hs⟩
  have hle : c.1 ≤ j := (resolves_winners text targets).index_le hc hfound rfl
  omega

end Compile

/-- Targets that no block refers to can be left out, whatever set of them: the static texts, the final
text and the targets that the blocks refer to, one after the other, stay as they are, and only the
indices of the references change.  A target that also stands at a lower index is always such a one. -/
theorem unreferenced_irrelevant (text : Text) (targets : List Text) (lost : Nat → Prop)
    [DecidablePred lost]
    (hlost : ∀ i, lost i → ∀ b ∈ (compile text targets).blocks, b.target ≠ i) :
    compile text (without lost targets) =
        ⟨(compile text targets).blocks.map (Block.reindex (newIndex lost)),
          (compile text targets).final, without lost targets⟩ ∧
      (compile text (without lost targets)).blocks.map
          (fun b => getSigned? (without lost targets) b.target) =
        (compile text targets).blocks.map (fun b => getSigned? targets b.target) ∧
      ∀ b ∈ (compile text targets).blocks, ∀ j : Nat, j < b.target →
        getSigned? targets j ≠ getSigned? targets b.target := by
  have hcompile := compile_without hlost
  refine ⟨hcompile, ?_, fun b hb j hj => getSigned_ne_of_lt hb hj⟩
  rw [hcompile, List.map_map]
  apply List.map_congr_left
  intro b hb
  exact getSigned_reindex hlost hb

/-- A target that is beaten, one that is absent, an empty one and one that comes twice. -/
theorem unreferenced_irrelevant_beaten :
    (∀ i, i ∈ [0, 1, 2, 5] → ∀ b ∈ (compile "a tree-shaking oak".toList
        ["tree".toList, "elm".toList, [], "tree-shaking".toList, "oak".toList,
          "tree-shaking".toList]).blocks, b.target ≠ (i : Nat)) ∧
      compile "a tree-shaking oak".toList (without (· ∈ [0, 1, 2, 5])
          ["tree".toList, "elm".toList, [], "tree-shaking".toList, "oak".toList,
            "tree-shaking".toList]) =
        ⟨[⟨"a ".toList, 0⟩, ⟨" ".toList, 1⟩], [], ["tree-shaking".toList, "oak".toList]⟩ := by
  have hcompile : compile "a tree-shaking oak".toList
      ["tree".toList, "elm".toList, [], "tree-shaking".toList, "oak".toList,
        "tree-shaking".toList] =
      ⟨[⟨"a ".toList, 3⟩, ⟨" ".toList, 4⟩], [], ["tree".toList, "elm".toList, [],
        "tree-shaking".toList, "oak".toList, "tree-shaking".toList]⟩ := by cbv
  have hlost : ∀ i, i ∈ [0, 1, 2, 5] → ∀ b ∈ (compile "a tree-shaking oak".toList
      ["tree".toList, "elm".toList, [], "tree-shaking".toList, "oak".toList,
        "tree-shaking".toList]).blocks, b.target ≠ (i : Nat) := by
    rw [hcompile]
    decide
  refine ⟨hlost, ?_⟩
  rw [(unreferenced_irrelevant _ _ (· ∈ [0, 1, 2, 5]) hlost).1, hcompile]
  decide

end Template
end Stencil
