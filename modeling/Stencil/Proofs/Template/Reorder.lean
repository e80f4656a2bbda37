import Stencil.Proofs.Template.Repetition

/-! # The order of the targets

If no two targets are equal, their order has no meaning.  Competing occurrences of different targets
never tie, so the same ones win in every order; and what is written and read for a target depends on
its own value and its own pattern.
-/
namespace Stencil
open Occurrence

namespace Template
variable {text : Text} {targets targets' : List Text}

/-- What is given for the targets in two orders is the same for each target. -/
def Agree {α : Type} (targets targets' : List Text) (f g : Nat → α) : Prop :=
  ∀ i j target, targets[i]? = some target → targets'[j]? = some target → f i = g j

theorem Agree.symm {α : Type} {f g : Nat → α} (h : Agree targets targets' f g) :
    Agree targets' targets g f :=
  fun j i target hj hi => (h i j target hi hj).symm

/-- Blocks with the same static text and with references to the same target. -/
def SameBlock (targets targets' : List Text) (b b' : Block) : Prop :=
  b.static = b'.static ∧ ∃ (i j : Nat) (target : Text), b.target = i ∧ b'.target = j ∧
    targets[i]? = some target ∧ targets'[j]? = some target

section Candidates

/-- A candidate with the target itself in the place of its index. -/
def named (targets : List Text) (c : Candidate) : Option Text × Span Nat := (targets[c.1]?, c.2)

theorem named_candidates_perm (text : Text) (targets : List Text) :
    ((candidates text targets).map (named targets)).Perm
      (targets.flatMap fun target => (all target text).map (some target, ·)) := by
  have hunsorted : (targets.zipIdx.flatMap fun p =>
      (all p.1 text).map (p.2, ·)).map (named targets) =
        targets.flatMap fun target => (all target text).map (some target, ·) := by
    conv_rhs => rw [← List.zipIdx_map_fst 0 targets, List.flatMap_map]
    rw [List.map_flatMap]
    refine List.flatMap_congr fun p hp => ?_
    rw [List.map_map]
    refine List.map_congr_left fun s _ => ?_
    simp [named, List.mem_zipIdx_iff_getElem?.1 hp]
  rw [← hunsorted]
  exact (List.mergeSort_perm _ _).map _

/-- Candidates for one stretch have the same target. -/
theorem named_eq_of_preferred {c d : Candidate} (hc : c.Spells text targets)
    (hd : d.Spells text targets') (hcd : c.2.preferred d.2) (hdc : d.2.preferred c.2) :
    named targets c = named targets' d := by
  obtain ⟨target, htarget, -, hat, hstop⟩ := hc
  obtain ⟨target', htarget', -, hat', hstop'⟩ := hd
  rw [preferred_iff] at hcd hdc
  have hstart : c.2.start = d.2.start := by omega
  have hstops : c.2.stop = d.2.stop := by omega
  obtain rfl : target = target' := by
    rw [At, hstart] at hat
    refine (List.prefix_of_prefix_length_le hat hat' ?_).eq_of_length ?_
    all_goals omega
  have hspan : c.2 = d.2 := by
    cases hc2 : c.2
    cases hd2 : d.2
    simp_all
  rw [named, named, htarget, htarget', hspan]

/-- In every order of the targets the same candidates come in the same order. -/
theorem named_candidates_eq (hperm : targets.Perm targets') :
    (candidates text targets).map (named targets) =
      (candidates text targets').map (named targets') := by
  have hsorted : ∀ ts : List Text,
      ((candidates text ts).map (named ts)).Pairwise fun x y => x.2.preferred y.2 = true := by
    intro ts
    rw [List.pairwise_map]
    exact (candidates_pairwise_index text ts).imp fun h => h.1
  refine List.Perm.eq_of_pairwise (fun x y hx hy hxy hyx => ?_) (hsorted targets)
    (hsorted targets') ?_
  · obtain ⟨c, hc, rfl⟩ := List.mem_map.1 hx
    obtain ⟨d, hd, rfl⟩ := List.mem_map.1 hy
    exact named_eq_of_preferred (spells_of_mem_candidates hc) (spells_of_mem_candidates hd) hxy hyx
  · exact (named_candidates_perm text targets).trans
      ((hperm.flatMap_right _).trans (named_candidates_perm text targets').symm)

theorem cut_named {cs cs' : List Candidate} (hcs : ∀ c ∈ cs, c.Spells text targets)
    (h : cs.map (named targets) = cs'.map (named targets')) (here : Nat) (rest : Text) :
    List.Forall₂ (SameBlock targets targets') (cut here rest cs).1 (cut here rest cs').1 ∧
      (cut here rest cs).2 = (cut here rest cs').2 := by
  induction cs generalizing here rest cs' with
  | nil =>
    obtain rfl : cs' = [] := by simpa using h.symm
    exact ⟨.nil, rfl⟩
  | cons c cs ih =>
    cases cs' with
    | nil => simp at h
    | cons d cs' =>
      obtain ⟨hnamed, htail⟩ := List.cons.inj h
      obtain ⟨hname, hspan⟩ : targets[c.1]? = targets'[d.1]? ∧ c.2 = d.2 := Prod.mk.inj hnamed
      have hrest := ih (fun e he => hcs e (List.mem_cons_of_mem c he)) htail
      obtain ⟨target, htarget, -⟩ := hcs c List.mem_cons_self
      rw [cut, cut, hspan]
      split
      · exact hrest here rest
      · obtain ⟨hblocks, hfinal⟩ := hrest d.2.stop (rest.drop (d.2.stop - here))
        exact ⟨.cons ⟨rfl, c.1, d.1, target, rfl, rfl, htarget, hname ▸ htarget⟩ hblocks, hfinal⟩

end Candidates

/-- In every order of the targets a template is cut into the same blocks. -/
theorem compile_reorder (text : Text) (hperm : targets.Perm targets') :
    List.Forall₂ (SameBlock targets targets') (compile text targets).blocks
        (compile text targets').blocks ∧
      (compile text targets).final = (compile text targets').final :=
  cut_named (fun _ => spells_of_mem_candidates) (named_candidates_eq hperm) 0 text

theorem weave_congr {final : Text} {f g : Int → Text} {blocks blocks' : List Block}
    (h : List.Forall₂ (fun b b' => b.static = b'.static ∧ f b.target = g b'.target) blocks blocks') :
    weave final blocks (blocks.map fun b => f b.target) =
      weave final blocks' (blocks'.map fun b => g b.target) := by
  induction h with
  | nil => rfl
  | cons hb _ ih => simp [weave, hb.1, hb.2, ih]

theorem positions_congr {i j : Int} {blocks blocks' : List Block}
    (h : List.Forall₂ (fun b b' => b.target = i ↔ b'.target = j) blocks blocks') (n : Nat) :
    ((blocks.zipIdx n).filterMap fun (b, k) => if b.target = i then some k else none) =
      (blocks'.zipIdx n).filterMap fun (b, k) => if b.target = j then some k else none := by
  induction h generalizing n with
  | nil => rfl
  | @cons b b' blocks blocks' hb _ ih =>
    by_cases hi : b.target = i
    · simp [hi, hb.1 hi, ih (n + 1)]
    · simp [hi, mt hb.2 hi, ih (n + 1)]

section Indices
variable {i j : Nat} {target : Text} (hnodup : targets.Nodup) (hperm : targets.Perm targets')
  (hi : targets[i]? = some target) (hj : targets'[j]? = some target)
include hnodup hperm hi hj

/-- A block refers to a target in one order exactly if the same block does in the other. -/
theorem SameBlock.target_eq_iff {b b' : Block} (h : SameBlock targets targets' b b') :
    b.target = i ↔ b'.target = j := by
  obtain ⟨-, k, l, other, hb, hb', hk, hl⟩ := h
  rw [hb, hb', Int.ofNat_inj, Int.ofNat_inj]
  obtain ⟨hklt, hk'⟩ := List.getElem?_eq_some_iff.1 hk
  obtain ⟨hllt, hl'⟩ := List.getElem?_eq_some_iff.1 hl
  constructor
  · rintro rfl
    obtain rfl : other = target := Option.some.inj (hk.symm.trans hi)
    exact (List.getElem?_inj hllt (hperm.nodup_iff.1 hnodup)).1 (hl.trans hj.symm)
  · rintro rfl
    obtain rfl : other = target := Option.some.inj (hl.symm.trans hj)
    exact (List.getElem?_inj hklt hnodup).1 (hk.trans hi.symm)

theorem referencesTo_reorder (text : Text) :
    (compile text targets).referencesTo i = (compile text targets').referencesTo j :=
  positions_congr ((compile_reorder text hperm).1.imp fun _ _ hb =>
    hb.target_eq_iff hnodup hperm hi hj) 0

theorem repeats_reorder {patterns patterns' : List (Option Pattern)}
    (hpatterns : Agree targets targets' (fun k => (patterns[k]?).join) fun k => (patterns'[k]?).join)
    (h : (compile text targets).Repeats patterns i) :
    (compile text targets').Repeats patterns' j := by
  obtain ⟨⟨p, hp⟩, htwo⟩ := h
  have hjoin : (patterns'[j]?).join = some p := by
    have hagree := hpatterns i j target hi hj
    simpa [hp] using hagree.symm
  refine ⟨⟨p, Option.join_eq_some_iff.1 hjoin⟩, ?_⟩
  rwa [← referencesTo_reorder hnodup hperm hi hj]

end Indices

theorem exists_index_of_perm {i : Nat} {target : Text} (hperm : targets.Perm targets')
    (hi : targets[i]? = some target) : ∃ j : Nat, targets'[j]? = some target :=
  List.mem_iff_getElem?.1 (hperm.mem_iff.1 (List.mem_of_getElem? hi))

end Template

namespace Reader
open Template
variable {patterns patterns' : List (Option Pattern)} {final : Text}

/-- Blocks with the same static text whose targets have the same pattern. -/
def ReadsAlike (patterns patterns' : List (Option Pattern)) (b b' : Block) : Prop :=
  b.static = b'.static ∧ getSigned? patterns b.target = getSigned? patterns' b'.target

section Alike
variable {blocks blocks' : List Block}
  (h : List.Forall₂ (ReadsAlike patterns patterns') blocks blocks')
include h

theorem Lockstep.congr {input rest : Text} {texts : List Text}
    (hlock : Lockstep patterns input blocks texts rest) :
    Lockstep patterns' input blocks' texts rest := by
  induction h generalizing input texts with
  | nil => cases hlock with
    | nil => exact .nil _
  | @cons b b' _ _ hb _ ih => cases hlock with
    | @cons _ _ w _ input _ htaken htail =>
      rw [hb.1]
      refine .cons ?_ (ih htail)
      rwa [taken, ← hb.2]

theorem readBlocks_congr {position offset : Nat} {input : Text} {failure : BlockFailure}
    (hread : readBlocks patterns final position offset input blocks = .error failure) :
    readBlocks patterns' final position offset input blocks' = .error failure := by
  induction h generalizing position offset input with
  | nil => exact hread
  | @cons b b' _ _ hb _ ih =>
    rw [readBlocks] at hread ⊢
    rw [← hb.1, ← hb.2]
    dsimp only at hread ⊢
    split at hread
    next hstatic =>
      rw [if_pos hstatic]
      cases hp : getSigned? patterns b.target with
      | none => simpa [hp] using hread
      | some p =>
        cases p with
        | none =>
          rw [hp] at hread
          exact ih hread
        | some p =>
          rw [hp] at hread
          dsimp only at hread ⊢
          cases hmatch : p.matchLength (input.drop b.static.length) with
          | none => rwa [hmatch] at hread
          | some n =>
            rw [hmatch] at hread
            exact map_eq_error_iff.2 (ih (map_eq_error_iff.1 hread))
    next hstatic =>
      rw [if_neg hstatic]
      exact hread

end Alike

/-- The outcomes of two reads, for the targets in two orders, are the same: the same value for each
target, the same deviation, or a repeated target in both. -/
inductive SameOutcome (targets targets' : List Text) :
    Except ReadFailure (List (Option Text)) → Except ReadFailure (List (Option Text)) → Prop
  | values {values values' : List (Option Text)} (hlength : values.length = targets.length)
      (hlength' : values'.length = targets'.length)
      (hagree : Agree targets targets' (fun i => values[i]?) fun j => values'[j]?) :
      SameOutcome targets targets' (.ok values) (.ok values')
  | badFormat (d : Deviation) (s : Option Surroundings) :
      SameOutcome targets targets' (.error (.error ⟨.badFormat d, s⟩))
        (.error (.error ⟨.badFormat d, s⟩))
  | tooMany (rep rep' : Repetition) (s : Option Surroundings) :
      SameOutcome targets targets' (.error (.error ⟨.tooMany rep, s⟩))
        (.error (.error ⟨.tooMany rep', s⟩))

section Compile
variable {text candidate : Text} {targets targets' : List Text} (hperm : targets.Perm targets')
  (hpatterns : Agree targets targets' (fun i => (patterns[i]?).join) fun j => (patterns'[j]?).join)
include hperm hpatterns

theorem readsAlike_reorder :
    List.Forall₂ (ReadsAlike (ofPatterns (compile text targets) patterns).patterns
        (ofPatterns (compile text targets') patterns').patterns)
      (compile text targets).blocks (compile text targets').blocks := by
  refine (compile_reorder text hperm).1.imp fun b b' ⟨hstatic, i, j, target, hb, hb', hi, hj⟩ => ?_
  have hlt : i < (compile text targets).targets.length := (List.getElem?_eq_some_iff.1 hi).1
  have hlt' : j < (compile text targets').targets.length := (List.getElem?_eq_some_iff.1 hj).1
  refine ⟨hstatic, ?_⟩
  rw [hb, hb', getSigned_ofPatterns hlt, getSigned_ofPatterns hlt']
  exact congrArg some (hpatterns i j target hi hj)

theorem lockstep_reorder {texts : List Text}
    (h : Lockstep (ofPatterns (compile text targets) patterns).patterns candidate
      (compile text targets).blocks texts (compile text targets).final) :
    Lockstep (ofPatterns (compile text targets') patterns').patterns candidate
      (compile text targets').blocks texts (compile text targets').final := by
  rw [← (compile_reorder text hperm).2]
  exact h.congr (readsAlike_reorder hperm hpatterns)

theorem badFormat_reorder {d : Deviation} {s : Option Surroundings}
    (h : (ofPatterns (compile text targets) patterns).read candidate =
      .error (.error ⟨.badFormat d, s⟩)) :
    (ofPatterns (compile text targets') patterns').read candidate =
      .error (.error ⟨.badFormat d, s⟩) := by
  obtain ⟨hblocks, rfl⟩ := (read_eq_badFormat_iff (source_ofPatterns text targets patterns)).1 h
  refine (read_eq_badFormat_iff (source_ofPatterns text targets' patterns')).2 ⟨?_, rfl⟩
  change readBlocks _ (compile text targets').final _ _ _ _ = _
  rw [← (compile_reorder text hperm).2]
  exact readBlocks_congr (readsAlike_reorder hperm hpatterns) hblocks

variable (hnodup : targets.Nodup)
include hnodup

theorem tooMany_reorder
    (h : ∃ rep s, (ofPatterns (compile text targets) patterns).read candidate =
      .error (.error ⟨.tooMany rep, s⟩)) :
    ∃ rep s, (ofPatterns (compile text targets') patterns').read candidate =
      .error (.error ⟨.tooMany rep, s⟩) := by
  obtain ⟨⟨texts, hlock⟩, i, hrepeats⟩ := exists_tooMany_ofPatterns_iff.1 h
  apply exists_tooMany_ofPatterns_iff.2
  refine ⟨⟨texts, lockstep_reorder hperm hpatterns hlock⟩, ?_⟩
  obtain ⟨b, hb, hi⟩ := exists_block_of_two_le hrepeats.2
  obtain ⟨k, hk, hlt⟩ := exists_index_of_mem_blocks hb
  obtain rfl : k = i := by omega
  have htarget : targets[k]? = some targets[k] := List.getElem?_eq_getElem hlt
  obtain ⟨j, hj⟩ := exists_index_of_perm hperm htarget
  exact ⟨j, repeats_reorder hnodup hperm htarget hj hpatterns hrepeats⟩

/-- The same texts are captured for a target in both orders. -/
theorem capturedTexts_reorder {texts : List Text} {i j : Nat} {target : Text}
    (hlength : texts.length = (compile text targets).blocks.length)
    (hi : targets[i]? = some target) (hj : targets'[j]? = some target) :
    capturedTexts (capturesFrom (ofPatterns (compile text targets) patterns).patterns 0
        (compile text targets).blocks texts) i =
      capturedTexts (capturesFrom (ofPatterns (compile text targets') patterns').patterns 0
        (compile text targets').blocks texts) j := by
  have hlength' : texts.length = (compile text targets').blocks.length :=
    hlength.trans (compile_reorder text hperm).1.length_eq
  have hlt : i < (compile text targets).targets.length := (List.getElem?_eq_some_iff.1 hi).1
  have hlt' : j < (compile text targets').targets.length := (List.getElem?_eq_some_iff.1 hj).1
  have hpatterned : patterned (ofPatterns (compile text targets) patterns).patterns i =
      patterned (ofPatterns (compile text targets') patterns').patterns j := by
    rw [patterned, patterned, getSigned_ofPatterns hlt, getSigned_ofPatterns hlt']
    exact congrArg (fun p => (some p).join.isSome) (hpatterns i j target hi hj)
  rw [capturedTexts_eq hlength, capturedTexts_eq hlength', hpatterned,
    referencesTo_reorder hnodup hperm hi hj]

theorem agree_of_read {values values' : List (Option Text)}
    (h : (ofPatterns (compile text targets) patterns).read candidate = .ok values)
    (h' : (ofPatterns (compile text targets') patterns').read candidate = .ok values') :
    Agree targets targets' (fun i => values[i]?) fun j => values'[j]? := by
  intro i j target hi hj
  obtain ⟨texts, hlock, hlength, hvalues⟩ := read_eq_ok_iff.1 h
  obtain ⟨texts', hlock', hlength', hvalues'⟩ := read_eq_ok_iff.1 h'
  obtain rfl := (lockstep_reorder hperm hpatterns hlock).texts_unique hlock'
  have hlt : i < values.length := hlength ▸ (List.getElem?_eq_some_iff.1 hi).1
  have hlt' : j < values'.length := hlength' ▸ (List.getElem?_eq_some_iff.1 hj).1
  have hv := hvalues i values[i] (List.getElem?_eq_getElem hlt)
  have hv' := hvalues' j values'[j] (List.getElem?_eq_getElem hlt')
  have hsame : values[i].toList = values'[j].toList :=
    hv.symm.trans ((capturedTexts_reorder hperm hpatterns hnodup hlock.length_eq hi hj).trans hv')
  have hvalue : values[i] = values'[j] := by simpa using congrArg List.head? hsame
  dsimp only
  rw [List.getElem?_eq_getElem hlt, List.getElem?_eq_getElem hlt', hvalue]

theorem sameOutcome_reorder :
    SameOutcome targets targets' ((ofPatterns (compile text targets) patterns).read candidate)
      ((ofPatterns (compile text targets') patterns').read candidate) := by
  have hsource := source_ofPatterns text targets patterns
  have hsource' := source_ofPatterns text targets' patterns'
  have hnodup' := hperm.nodup_iff.1 hnodup
  rcases read_ofPatterns_outcome text targets patterns candidate with
    ⟨values, hread, hlength⟩ | ⟨d, s, hread⟩ | ⟨rep, s, hread⟩
  · rcases read_ofPatterns_outcome text targets' patterns' candidate with
      ⟨values', hread', hlength'⟩ | ⟨d, s, hread'⟩ | hread'
    · have hagree := agree_of_read hperm hpatterns hnodup hread hread'
      rw [hread, hread']
      exact .values hlength hlength' hagree
    · -- the candidate would be refused in the first order too
      have hback := badFormat_reorder hperm.symm hpatterns.symm hread'
      rw [hread] at hback
      cases hback
    · obtain ⟨rep, s, hback⟩ := tooMany_reorder hperm.symm hpatterns.symm hnodup' hread'
      rw [hread] at hback
      cases hback
  · rw [hread, badFormat_reorder hperm hpatterns hread]
    exact .badFormat d s
  · obtain ⟨rep', s', hread'⟩ := tooMany_reorder hperm hpatterns hnodup ⟨rep, s, hread⟩
    obtain ⟨rfl, -⟩ := (read_eq_tooMany_iff hsource).1 hread
    obtain ⟨rfl, -⟩ := (read_eq_tooMany_iff hsource').1 hread'
    rw [hread, hread']
    exact .tooMany rep rep' _

end Compile

/-- If no two targets are equal, another order of them changes nothing but their indices: the blocks
have the same static texts and refer to the same targets, the same text is written for the same
values, and with the same patterns each candidate is read to the same values, refused with the same
deviation or refused for a repeated target in both orders. -/
theorem order_irrelevant (text candidate : Text) (targets targets' : List Text)
    (values values' : List Text) (patterns patterns' : List (Option Pattern))
    (hnodup : targets.Nodup) (hperm : targets.Perm targets')
    (hvalues : Agree targets targets' (fun i => (values[i]?).getD []) fun j => (values'[j]?).getD [])
    (hpatterns : Agree targets targets' (fun i => (patterns[i]?).join)
      fun j => (patterns'[j]?).join) :
    (List.Forall₂ (SameBlock targets targets') (compile text targets).blocks
        (compile text targets').blocks ∧
      (compile text targets).final = (compile text targets').final) ∧
    (compile text targets).write values = (compile text targets').write values' ∧
    SameOutcome targets targets' ((ofPatterns (compile text targets) patterns).read candidate)
      ((ofPatterns (compile text targets') patterns').read candidate) := by
  have hcompile := compile_reorder text hperm
  refine ⟨hcompile, ?_, sameOutcome_reorder hperm hpatterns hnodup⟩
  rw [write_eq_weave nonneg_of_mem_blocks, write_eq_weave nonneg_of_mem_blocks, ← hcompile.2]
  refine congrArg _ (weave_congr (hcompile.1.imp fun b b' hb => ⟨hb.1, ?_⟩))
  obtain ⟨-, i, j, target, hi, hj, htarget, htarget'⟩ := hb
  rw [hi, hj]
  exact hvalues i j target htarget htarget'

/-- A target that begins another one, in both orders. -/
theorem order_irrelevant_prefix :
    ["tree".toList, "tree-shaking".toList].Nodup ∧
      ["tree".toList, "tree-shaking".toList].Perm ["tree-shaking".toList, "tree".toList] ∧
      (compile "tree-shaking trees".toList ["tree".toList, "tree-shaking".toList]).write
          ["oak".toList, "pruning".toList] =
        (compile "tree-shaking trees".toList ["tree-shaking".toList, "tree".toList]).write
          ["pruning".toList, "oak".toList] ∧
      SameOutcome ["tree".toList, "tree-shaking".toList] ["tree-shaking".toList, "tree".toList]
        ((ofPatterns (compile "tree-shaking trees".toList ["tree".toList, "tree-shaking".toList])
          [some digits.toPattern, none]).read " 12s".toList)
        ((ofPatterns (compile "tree-shaking trees".toList ["tree-shaking".toList, "tree".toList])
          [none, some digits.toPattern]).read " 12s".toList) := by
  have hnodup : ["tree".toList, "tree-shaking".toList].Nodup := by decide
  have hperm : ["tree".toList, "tree-shaking".toList].Perm ["tree-shaking".toList, "tree".toList] :=
    List.Perm.swap _ _ _
  have hindex : ∀ (i j : Nat) (target : Text),
      ["tree".toList, "tree-shaking".toList][i]? = some target →
        ["tree-shaking".toList, "tree".toList][j]? = some target →
          i = 0 ∧ j = 1 ∨ i = 1 ∧ j = 0 := by
    intro i j target hi hj
    rcases i with - | - | i <;> rcases j with - | - | j <;> simp at hi hj ⊢
    · exact absurd (hi.trans hj.symm) (by decide)
    · exact absurd (hi.trans hj.symm) (by decide)
  have hvalues : Agree ["tree".toList, "tree-shaking".toList] ["tree-shaking".toList, "tree".toList]
      (fun i => (["oak".toList, "pruning".toList][i]?).getD [])
      fun j => (["pruning".toList, "oak".toList][j]?).getD [] := by
    intro i j target hi hj
    rcases hindex i j target hi hj with ⟨rfl, rfl⟩ | ⟨rfl, rfl⟩ <;> rfl
  have hpatterns : Agree ["tree".toList, "tree-shaking".toList]
      ["tree-shaking".toList, "tree".toList]
      (fun i => ([some digits.toPattern, none][i]?).join)
      fun j => ([none, some digits.toPattern][j]?).join := by
    intro i j target hi hj
    rcases hindex i j target hi hj with ⟨rfl, rfl⟩ | ⟨rfl, rfl⟩ <;> rfl
  obtain ⟨-, hwrite, houtcome⟩ := order_irrelevant "tree-shaking trees".toList " 12s".toList
    _ _ _ _ _ _ hnodup hperm hvalues hpatterns
  exact ⟨hnodup, hperm, hwrite, houtcome⟩

end Reader
end Stencil
