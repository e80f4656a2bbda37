import Stencil.Proofs.Template.Resolution

/-! # A single target

To fill out a template that has one target is to replace that target in the text: wherever it stands,
from left to right and each time behind the place before.  What is put in is not searched again.
-/
namespace Stencil.Template
open Occurrence

/-- The text with another one in each place of the needle.  Behind a place the rest is gone through
afresh, so places do not overlap. -/
def replaceAll (needle value : Text) : Text → Text
  | [] => []
  | c :: rest =>
    if needle <+: c :: rest then value ++ replaceAll needle value (rest.drop (needle.length - 1))
    else c :: replaceAll needle value rest
termination_by text => text.length
decreasing_by
  · rw [List.length_drop, List.length_cons]
    omega
  · exact Nat.lt_succ_self _

/-- The candidates for a single target in a text that starts at offset `here`. -/
def placesFrom (needle : Text) (here : Nat) (text : Text) : List Candidate :=
  (starts needle 0 here text).map fun i => (0, ⟨i, i + needle.length⟩)

section Single
variable {needle : Text} {here : Nat} {c : Char} {rest : Text}

theorem placesFrom_cons_of_pos (hne : needle ≠ []) (hp : needle <+: c :: rest) :
    placesFrom needle here (c :: rest) =
      (0, ⟨here, here + needle.length⟩) ::
        placesFrom needle (here + needle.length) (rest.drop (needle.length - 1)) := by
  have hpos := List.length_pos_iff.2 hne
  have hnext : here + 1 + (needle.length - 1) = here + needle.length := by omega
  simp [placesFrom, starts, hp, starts_covered (needle.length - 1), hnext]

theorem placesFrom_cons_of_neg (hp : ¬ needle <+: c :: rest) :
    placesFrom needle here (c :: rest) = placesFrom needle (here + 1) rest := by
  simp [placesFrom, starts, hp]

theorem candidates_singleton (hne : needle ≠ []) (text : Text) :
    candidates text [needle] = placesFrom needle 0 text := by
  have hall : placesFrom needle 0 text = (all needle text).map (0, ·) := by
    simp [placesFrom, all, hne]
  rw [hall]
  apply candidates_eq_of_pairwise
  · rw [List.pairwise_map]
    apply (all_pairwise needle text).imp_of_mem
    intro s t hs _ hst
    have hpos := List.length_pos_iff.2 hne
    obtain ⟨-, -, hstop⟩ := of_mem_all hs
    left
    dsimp only
    omega
  · rintro ⟨i, s⟩
    cases i <;> simp [Candidate.Found]

/-- Cutting a text at the places of the needle and putting a value into each reference replaces the
needle by the value.  The characters `before` belong to a static text that is not at its end yet. -/
theorem weave_cut_placesFrom (hne : needle ≠ []) (value before text : Text) (here : Nat) :
    weave (cut here (before ++ text) (placesFrom needle (here + before.length) text)).2
        (cut here (before ++ text) (placesFrom needle (here + before.length) text)).1
        ((cut here (before ++ text) (placesFrom needle (here + before.length) text)).1.map
          fun _ => value) =
      before ++ replaceAll needle value text := by
  fun_induction replaceAll needle value text generalizing before here with
  | case1 => rfl
  | case2 c rest hp ih =>
    have hpos := List.length_pos_iff.2 hne
    have htake : here + before.length - here = before.length := by omega
    have hdrop : here + before.length + needle.length - here =
        before.length + (needle.length - 1 + 1) := by omega
    have hnext := ih [] (here + before.length + needle.length)
    rw [List.nil_append, List.nil_append, List.length_nil, Nat.add_zero] at hnext
    rw [placesFrom_cons_of_pos hne hp]
    simpa [cut, weave, htake, hdrop] using hnext
  | case3 c rest hp ih =>
    have hnext := ih (before ++ [c]) here
    rw [placesFrom_cons_of_neg hp]
    simpa [Nat.add_assoc] using hnext

end Single

/-- What is written into a template with a single target is the text with the target replaced by the
value, from left to right. -/
theorem write_eq_replaceAll (text target value : Text) (hne : target ≠ []) :
    (compile text [target]).write [value] = .ok (replaceAll target value text) := by
  have hvalues : ((compile text [target]).blocks.map fun b => valueAt [value] b.target) =
      (compile text [target]).blocks.map fun _ => value := by
    apply List.map_congr_left
    intro b hb
    obtain ⟨i, hi, hlt, -⟩ := exists_target_of_mem_blocks hb
    obtain rfl : i = 0 := Nat.lt_one_iff.1 hlt
    rw [hi]
    rfl
  have hweave := weave_cut_placesFrom hne value [] text 0
  rw [List.length_nil, Nat.add_zero, List.nil_append, List.nil_append,
    ← candidates_singleton hne] at hweave
  rw [compile_write, hvalues]
  exact congrArg Except.ok hweave

/-- A target that overlaps itself, and a value in which it stands. -/
theorem write_eq_replaceAll_overlapping :
    "aa".toList ≠ [] ∧
      (compile "aaaaa".toList ["aa".toList]).write ["baab".toList] = .ok "baabbaaba".toList := by
  have hne : "aa".toList ≠ [] := by decide
  have hreplace : replaceAll "aa".toList "baab".toList "aaaaa".toList = "baabbaaba".toList := by cbv
  exact ⟨hne, hreplace ▸ write_eq_replaceAll _ _ _ hne⟩

end Stencil.Template
