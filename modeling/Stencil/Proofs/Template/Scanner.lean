import Stencil.Proofs.Template.Layout

/-! # Cutting as scanning

A template can also be cut in one pass from left to right: go to the first place where some target
stands, take the longest target there, and go on behind it.  If no target can overlap itself, this
gives the same blocks as collecting all occurrences, ordering them and dropping those that overlap.
-/
namespace Stencil.Template
open Occurrence

/-- The target stands at the beginning of the text and is not empty. -/
def Heads (target text : Text) : Prop := target ≠ [] ∧ target <+: text

instance (target text : Text) : Decidable (Heads target text) :=
  inferInstanceAs (Decidable (_ ∧ _))

/-- Of the targets from index `i` on that stand at the beginning of a text, the longest one and its
index; of equal ones the first. -/
def longest? (text : Text) (i : Nat) : List Text → Option (Nat × Text)
  | [] => none
  | target :: targets =>
    match longest? text (i + 1) targets with
    | none => if Heads target text then some (i, target) else none
    | some (j, other) =>
      if Heads target text ∧ other.length ≤ target.length then some (i, target)
      else some (j, other)

/-- The text in front of the first place where a target stands, with the longest target there and its
index. -/
def next? (targets : List Text) : Text → Option (Text × Nat × Text)
  | [] => none
  | c :: rest =>
    match longest? (c :: rest) 0 targets with
    | some (i, target) => some ([], i, target)
    | none => (next? targets rest).map fun (before, i, target) => (c :: before, i, target)

theorem longest?_eq_none_iff {text : Text} {i : Nat} {targets : List Text} :
    longest? text i targets = none ↔ ∀ target ∈ targets, ¬ Heads target text := by
  induction targets generalizing i with
  | nil => simp [longest?]
  | cons target targets ih =>
    rw [longest?, List.forall_mem_cons, ← ih (i := i + 1)]
    cases longest? text (i + 1) targets with
    | none => simp
    | some found =>
      simp only [reduceCtorEq, and_false, iff_false]
      split <;> simp

/-- The target that is found stands at the beginning, no other one there is longer, and none of its
length comes before. -/
theorem of_longest?_eq_some {text : Text} {i j : Nat} {targets : List Text} {target : Text}
    (h : longest? text i targets = some (j, target)) :
    ∃ k, j = i + k ∧ targets[k]? = some target ∧ Heads target text ∧
      ∀ m other, targets[m]? = some other → Heads other text →
        other.length < target.length ∨ other.length = target.length ∧ k ≤ m := by
  induction targets generalizing i j target with
  | nil => simp [longest?] at h
  | cons first targets ih =>
    rw [longest?] at h
    cases hrest : longest? text (i + 1) targets with
    | none =>
      rw [hrest] at h
      dsimp only at h
      split at h
      next hfirst =>
        obtain ⟨rfl, rfl⟩ := Prod.mk.inj (Option.some.inj h)
        refine ⟨0, rfl, rfl, hfirst, fun m other hm hother => ?_⟩
        cases m with
        | zero => exact .inr ⟨congrArg List.length (Option.some.inj hm).symm, Nat.le_refl 0⟩
        | succ m => exact absurd hother (longest?_eq_none_iff.1 hrest other (List.mem_of_getElem? hm))
      next => cases h
    | some found =>
      obtain ⟨j', target'⟩ := found
      obtain ⟨k, rfl, hk, hheads, hbest⟩ := ih hrest
      rw [hrest] at h
      dsimp only at h
      split at h
      next hfirst =>
        obtain ⟨rfl, rfl⟩ := Prod.mk.inj (Option.some.inj h)
        refine ⟨0, rfl, rfl, hfirst.1, fun m other hm hother => ?_⟩
        cases m with
        | zero => exact .inr ⟨congrArg List.length (Option.some.inj hm).symm, Nat.le_refl 0⟩
        | succ m =>
          have hlength := hbest m other hm hother
          omega
      next hfirst =>
        obtain ⟨rfl, rfl⟩ := Prod.mk.inj (Option.some.inj h)
        refine ⟨k + 1, by omega, hk, hheads, fun m other hm hother => ?_⟩
        cases m with
        | zero =>
          obtain rfl := Option.some.inj hm
          exact .inl (Nat.lt_of_not_le fun hle => hfirst ⟨hother, hle⟩)
        | succ m =>
          have hlength := hbest m other hm hother
          omega

theorem next?_eq_none_iff {targets : List Text} {text : Text} :
    next? targets text = none ↔ ∀ k, ∀ target ∈ targets, ¬ Heads target (text.drop k) := by
  induction text with
  | nil => simp [next?, Heads]
  | cons c rest ih =>
    rw [next?]
    cases hlongest : longest? (c :: rest) 0 targets with
    | some found =>
      simp only [reduceCtorEq, false_iff]
      intro h
      have hnone : longest? (c :: rest) 0 targets = none := longest?_eq_none_iff.2 (h 0)
      rw [hlongest] at hnone
      cases hnone
    | none =>
      rw [Option.map_eq_none_iff, ih]
      constructor
      · intro h k
        cases k with
        | zero => exact longest?_eq_none_iff.1 hlongest
        | succ k => exact h k
      · exact fun h k => h (k + 1)

theorem of_next?_eq_some {targets : List Text} {text before target : Text} {i : Nat}
    (h : next? targets text = some (before, i, target)) :
    before = text.take before.length ∧
      longest? (text.drop before.length) 0 targets = some (i, target) ∧
      ∀ k < before.length, ∀ other ∈ targets, ¬ Heads other (text.drop k) := by
  induction text generalizing before with
  | nil => simp [next?] at h
  | cons c rest ih =>
    rw [next?] at h
    cases hlongest : longest? (c :: rest) 0 targets with
    | some found =>
      rw [hlongest] at h
      obtain ⟨rfl, hfound⟩ := Prod.mk.inj (Option.some.inj h)
      exact ⟨rfl, hfound ▸ hlongest, fun k hk => absurd hk (Nat.not_lt_zero k)⟩
    | none =>
      rw [hlongest] at h
      obtain ⟨⟨before', i', target'⟩, hnext, heq⟩ := Option.map_eq_some_iff.1 h
      simp only [Prod.mk.injEq] at heq
      obtain ⟨rfl, rfl, rfl⟩ := heq
      obtain ⟨hbefore, hfound, hnone⟩ := ih hnext
      refine ⟨congrArg (c :: ·) hbefore, hfound, fun k hk => ?_⟩
      cases k with
      | zero => exact longest?_eq_none_iff.1 hlongest
      | succ k => exact hnone k (Nat.lt_of_succ_lt_succ hk)

theorem length_le_of_next?_eq_some {targets : List Text} {text before target : Text} {i : Nat}
    (h : next? targets text = some (before, i, target)) :
    target ≠ [] ∧ before.length + target.length ≤ text.length := by
  obtain ⟨-, hlongest, -⟩ := of_next?_eq_some h
  obtain ⟨-, -, -, ⟨hne, hbegin⟩, -⟩ := of_longest?_eq_some hlongest
  exact ⟨hne, At.length_le hbegin hne⟩

/-- Cut a text in one pass: up to the first place where a target stands, and on behind the longest
target there. -/
def scan (targets : List Text) (text : Text) : List Block × Text :=
  match _h : next? targets text with
  | none => ([], text)
  | some (before, i, target) =>
    let (blocks, final) := scan targets (text.drop (before.length + target.length))
    (⟨before, i⟩ :: blocks, final)
termination_by text.length
decreasing_by
  obtain ⟨hne, hle⟩ := length_le_of_next?_eq_some _h
  have hpos := List.length_pos_iff.2 hne
  rw [List.length_drop]
  omega

theorem scan_of_next?_eq_none {targets : List Text} {text : Text} (h : next? targets text = none) :
    scan targets text = ([], text) := by
  rw [scan]
  split
  next => rfl
  next hsome => rw [h] at hsome; cases hsome

theorem scan_of_next?_eq_some {targets : List Text} {text before target : Text} {i : Nat}
    (h : next? targets text = some (before, i, target)) :
    scan targets text =
      (⟨before, i⟩ :: (scan targets (text.drop (before.length + target.length))).1,
        (scan targets (text.drop (before.length + target.length))).2) := by
  rw [scan]
  split
  next hnone => rw [h] at hnone; cases hnone
  next hsome =>
    rw [h] at hsome
    cases hsome
    rfl

section Cut
variable {text : Text} {targets : List Text}

/-- Every place from offset `here` on where a target stands is a candidate of the list. -/
def Complete (text : Text) (targets : List Text) (here : Nat) (cs : List Candidate) : Prop :=
  ∀ k i target, here ≤ k → targets[i]? = some target → Heads target (text.drop k) →
    (i, ⟨k, k + target.length⟩) ∈ cs

/-- The first candidate behind offset `here` is what the scanner comes to next. -/
theorem next?_drop_eq_some {here : Nat} {c : Candidate} {rest : List Candidate}
    (hc : c.Spells text targets) (hhere : here ≤ c.2.start)
    (hfirst : ∀ d ∈ rest, c.2.preferred d.2 ∧ (d.2.preferred c.2 → c.1 ≤ d.1))
    (hcomplete : Complete text targets here (c :: rest)) :
    ∃ target, c.2.stop = c.2.start + target.length ∧
      next? targets (text.drop here) =
        some ((text.drop here).take (c.2.start - here), c.1, target) := by
  obtain ⟨target, hi, hne, hat, hstop⟩ := hc
  have hmem := List.mem_of_getElem? hi
  cases hnext : next? targets (text.drop here) with
  | none =>
    have hheads : Heads target ((text.drop here).drop (c.2.start - here)) := by
      refine ⟨hne, at_drop.2 ?_⟩
      rwa [Nat.add_sub_cancel' hhere]
    exact absurd hheads (next?_eq_none_iff.1 hnext _ target hmem)
  | some found =>
    obtain ⟨before, j, other⟩ := found
    obtain ⟨hbefore, hlongest, hnone⟩ := of_next?_eq_some hnext
    obtain ⟨k, rfl, hj, hother, hbest⟩ := of_longest?_eq_some hlongest
    rw [List.drop_drop] at hlongest hother hbest
    rw [Nat.zero_add] at hlongest ⊢
    have hfound := hcomplete _ k other (Nat.le_add_right here before.length) hj hother
    have hstart : c.2.start ≤ here + before.length := by
      rcases List.mem_cons.1 hfound with heq | hd
      · exact Nat.le_of_eq (congrArg (·.2.start) heq.symm)
      · have hpref := preferred_iff.1 (hfirst _ hd).1
        dsimp only at hpref
        omega
    have hnotBefore : ¬ c.2.start - here < before.length := fun hlt => by
      refine hnone _ hlt target hmem ⟨hne, at_drop.2 ?_⟩
      rwa [Nat.add_sub_cancel' hhere]
    have heqstart : c.2.start = here + before.length := by omega
    have hlength := hbest c.1 target hi ⟨hne, heqstart ▸ hat⟩
    obtain rfl : c.1 = k := by
      rcases List.mem_cons.1 hfound with heq | hd
      · exact congrArg (·.1) heq.symm
      · obtain ⟨hpref, htie⟩ := hfirst _ hd
        rw [preferred_iff] at hpref htie
        dsimp only at hpref htie
        omega
    obtain rfl : target = other := Option.some.inj (hi.symm.trans hj)
    refine ⟨target, hstop, ?_⟩
    rw [heqstart, Nat.add_sub_cancel_left, ← hbefore]

/-- Cutting at candidates among which is every place of a target gives what the scanner gives. -/
theorem cut_eq_scan {cs : List Candidate} (hcs : ∀ c ∈ cs, c.Spells text targets)
    (hsorted : cs.Pairwise fun a b => a.2.preferred b.2 ∧ (b.2.preferred a.2 → a.1 ≤ b.1))
    (here : Nat) (hcomplete : Complete text targets here cs) :
    cut here (text.drop here) cs = scan targets (text.drop here) := by
  induction cs generalizing here with
  | nil =>
    have hnone : next? targets (text.drop here) = none := by
      refine next?_eq_none_iff.2 fun k target ht hheads => ?_
      obtain ⟨i, hi⟩ := List.mem_iff_getElem?.1 ht
      rw [List.drop_drop] at hheads
      exact absurd (hcomplete _ i target (Nat.le_add_right here k) hi hheads) List.not_mem_nil
    rw [cut, scan_of_next?_eq_none hnone]
  | cons c rest ih =>
    have hc := hcs c List.mem_cons_self
    obtain ⟨hfirst, hsorted⟩ := List.pairwise_cons.1 hsorted
    have hrest := ih (fun d hd => hcs d (List.mem_cons_of_mem c hd)) hsorted
    have hpos := hc.start_lt_stop
    have hothers : ∀ here', here ≤ here' → c.2.start < here' → Complete text targets here' rest := by
      intro here' hle hlt k i target hk hi hheads
      rcases List.mem_cons.1 (hcomplete k i target (hle.trans hk) hi hheads) with heq | hmem
      · have hstart : k = c.2.start := congrArg (·.2.start) heq
        omega
      · exact hmem
    by_cases hlt : c.2.start < here
    · rw [cut_cons_of_lt hlt]
      exact hrest here (hothers here (Nat.le_refl here) hlt)
    · have hle := Nat.le_of_not_lt hlt
      obtain ⟨target, hstop, hnext⟩ := next?_drop_eq_some hc hle hfirst hcomplete
      have hlength : ((text.drop here).take (c.2.start - here)).length = c.2.start - here := by
        have hend := hc.stop_le
        rw [List.length_take, List.length_drop]
        omega
      have hdrop : (text.drop here).drop (c.2.start - here + target.length) = text.drop c.2.stop := by
        rw [List.drop_drop, hstop]
        congr 1
        omega
      rw [cut_drop_cons hle (Nat.le_of_lt hpos), scan_of_next?_eq_some hnext, hlength, hdrop,
        hrest c.2.stop (hothers c.2.stop (by omega) hpos)]

end Cut

/-- If no target can overlap itself, a template is cut as the scanner cuts it: at the foremost place
where a target stands, at the longest target there, and then on behind it. -/
theorem compile_eq_scan (text : Text) (targets : List Text)
    (hborder : ∀ target ∈ targets, ¬ Bordered target) :
    compile text targets = ⟨(scan targets text).1, (scan targets text).2, targets⟩ := by
  have hcomplete : Complete text targets 0 (candidates text targets) := by
    intro k i target _ hi ⟨hne, hat⟩
    exact mem_candidates.2
      ⟨target, hi, mem_all_of_at (hborder target (List.mem_of_getElem? hi)) hne hat⟩
  have hcut := cut_eq_scan (fun _ => spells_of_mem_candidates)
    (candidates_pairwise_index text targets) 0 hcomplete
  rw [List.drop_zero] at hcut
  rw [compile, hcut]

/-- A target inside another, one that starts inside a third, and one that comes twice. -/
theorem compile_eq_scan_nested :
    (∀ target ∈ ["tree".toList, "falling-tree".toList, "tree-shaking".toList, "tree".toList],
        ¬ Bordered target) ∧
      compile "a falling-tree, tree-shaking tree".toList
          ["tree".toList, "falling-tree".toList, "tree-shaking".toList, "tree".toList] =
        ⟨[⟨"a ".toList, 1⟩, ⟨", ".toList, 2⟩, ⟨" ".toList, 0⟩], [],
          ["tree".toList, "falling-tree".toList, "tree-shaking".toList, "tree".toList]⟩ :=
  have hborder : ∀ target ∈
      ["tree".toList, "falling-tree".toList, "tree-shaking".toList, "tree".toList],
        ¬ Bordered target := by decide
  have hscan : scan ["tree".toList, "falling-tree".toList, "tree-shaking".toList, "tree".toList]
      "a falling-tree, tree-shaking tree".toList =
        ([⟨"a ".toList, 1⟩, ⟨", ".toList, 2⟩, ⟨" ".toList, 0⟩], []) := by cbv
  ⟨hborder, by rw [compile_eq_scan _ _ hborder, hscan]⟩

end Stencil.Template
