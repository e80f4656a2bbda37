import Stencil.Template.Compile
import Stencil.Proofs.Occurrence

/-! # Winning occurrences

The occurrences that compete for a template come in the order of their starts.  Going through them,
one wins if it starts no earlier than the end of the last winner.  The winners do not overlap, and
every competitor starts inside one of them.
-/
namespace Stencil.Template
open Occurrence

namespace Candidate

/-- The candidate is a stretch of the text that spells its target, which is not empty. -/
def Spells (text : Text) (targets : List Text) (c : Candidate) : Prop :=
  ∃ target, targets[c.1]? = some target ∧ target ≠ [] ∧ At target text c.2.start ∧
    c.2.stop = c.2.start + target.length

variable {text : Text} {targets : List Text} {c : Candidate}

theorem Spells.start_lt_stop (h : c.Spells text targets) : c.2.start < c.2.stop := by
  obtain ⟨target, -, hne, -, hstop⟩ := h
  have hpos := List.length_pos_iff.2 hne
  omega

theorem Spells.stop_le (h : c.Spells text targets) : c.2.stop ≤ text.length := by
  obtain ⟨target, -, hne, hat, hstop⟩ := h
  exact hstop ▸ hat.length_le hne

end Candidate

theorem mem_candidates {text : Text} {targets : List Text} {c : Candidate} :
    c ∈ candidates text targets ↔
      ∃ target, targets[c.1]? = some target ∧ c.2 ∈ all target text := by
  rw [candidates, List.mem_mergeSort, List.mem_flatMap]
  constructor
  · rintro ⟨⟨target, i⟩, hi, hc⟩
    obtain ⟨s, hs, rfl⟩ := List.mem_map.1 hc
    exact ⟨target, List.mem_zipIdx_iff_getElem?.1 hi, hs⟩
  · rintro ⟨target, hi, hc⟩
    exact ⟨(target, c.1), List.mem_zipIdx_iff_getElem?.2 hi, List.mem_map.2 ⟨c.2, hc, rfl⟩⟩

theorem spells_of_mem_candidates {text : Text} {targets : List Text} {c : Candidate}
    (h : c ∈ candidates text targets) : c.Spells text targets := by
  obtain ⟨target, hi, hs⟩ := mem_candidates.1 h
  obtain ⟨hne, hat, hstop⟩ := of_mem_all hs
  exact ⟨target, hi, hne, hat, hstop⟩

theorem preferred_iff {a b : Span Nat} :
    a.preferred b ↔ a.start < b.start ∨ a.start = b.start ∧ b.stop ≤ a.stop := by
  simp [Span.preferred]

section Stable
variable {α : Type} {le : α → α → Bool}

/-- A stable sort keeps the order of elements that tie. -/
theorem mergeSort_pairwise_of_stable {R : α → α → Prop} {l : List α}
    (htrans : ∀ a b c, le a b → le b c → le a c) (htotal : ∀ a b, le a b || le b a)
    (hrefl : ∀ a, R a a) (h : l.Pairwise R) :
    (l.mergeSort le).Pairwise fun a b => le a b ∧ (le b a → R a b) := by
  rw [← List.mergeSort_zipIdx, List.pairwise_map]
  have hsorted := List.pairwise_mergeSort (List.zipIdxLE_trans htrans) (List.zipIdxLE_total htotal)
    l.zipIdx
  refine hsorted.imp_of_mem fun {x y} hx hy hle => ?_
  have hx := List.mem_zipIdx_iff_getElem?.1 (List.mem_mergeSort.1 hx)
  have hy := List.mem_zipIdx_iff_getElem?.1 (List.mem_mergeSort.1 hy)
  rw [List.zipIdxLE] at hle
  split at hle
  next hxy =>
    refine ⟨hxy, fun hyx => ?_⟩
    rw [if_pos hyx, decide_eq_true_eq] at hle
    rcases Nat.eq_or_lt_of_le hle with heq | hlt
    · rw [heq, hy] at hx
      exact Option.some.inj hx ▸ hrefl _
    · obtain ⟨hxlt, hxe⟩ := List.getElem?_eq_some_iff.1 hx
      obtain ⟨hylt, hye⟩ := List.getElem?_eq_some_iff.1 hy
      exact hxe ▸ hye ▸ List.pairwise_iff_getElem.1 h _ _ hxlt hylt hlt
  next => cases hle

end Stable

theorem preferred_trans (a b c : Candidate) (hab : a.2.preferred b.2) (hbc : b.2.preferred c.2) :
    a.2.preferred c.2 := by
  rw [preferred_iff] at *
  omega

theorem preferred_total (a b : Candidate) : a.2.preferred b.2 || b.2.preferred a.2 := by
  rw [Bool.or_eq_true, preferred_iff, preferred_iff]
  omega

/-- Of candidates for one stretch, the one whose target comes first is preferred. -/
theorem candidates_pairwise_index (text : Text) (targets : List Text) :
    (candidates text targets).Pairwise fun a b =>
      a.2.preferred b.2 ∧ (b.2.preferred a.2 → a.1 ≤ b.1) := by
  refine mergeSort_pairwise_of_stable (R := fun a b : Candidate => a.1 ≤ b.1) preferred_trans
    preferred_total (fun a => Nat.le_refl a.1) ?_
  rw [List.pairwise_flatMap]
  refine ⟨fun p _ => List.pairwise_map.2 (List.pairwise_of_forall fun a b => Nat.le_refl p.2), ?_⟩
  have hindex : (targets.zipIdx.map (·.2)).Pairwise (· ≤ ·) := by
    rw [List.zipIdx_map_snd]
    exact List.pairwise_le_range'
  refine (List.pairwise_map.1 hindex).imp fun {p q} hpq a ha b hb => ?_
  obtain ⟨-, -, rfl⟩ := List.mem_map.1 ha
  obtain ⟨-, -, rfl⟩ := List.mem_map.1 hb
  exact hpq

/-- Each candidate starts no earlier than the ones before it. -/
abbrev Ordered (cs : List Candidate) : Prop := cs.Pairwise fun a b => a.2.start ≤ b.2.start

theorem candidates_ordered (text : Text) (targets : List Text) :
    Ordered (candidates text targets) := by
  refine (candidates_pairwise_index text targets).imp fun {a b} ⟨hab, _⟩ => ?_
  rw [preferred_iff] at hab
  omega

/-- The candidates that start no earlier than the end of the last one kept, the first of them no
earlier than offset `here`. -/
def winners (here : Nat) : List Candidate → List Candidate
  | [] => []
  | c :: rest => if c.2.start < here then winners here rest else c :: winners c.2.stop rest

/-- The winners are candidates, in the order of the candidates. -/
theorem winners_sublist (here : Nat) (cs : List Candidate) : (winners here cs).Sublist cs := by
  induction cs generalizing here with
  | nil => exact List.Sublist.refl _
  | cons c rest ih =>
    rw [winners]
    split
    · exact (ih here).cons c
    · exact (ih c.2.stop).cons_cons c

/-- A candidate behind offset `here` wins, or it starts inside a winner that comes before it. -/
theorem mem_winners_or_exists {cs : List Candidate} {R : Candidate → Candidate → Prop}
    (hcs : cs.Pairwise R) {here : Nat} {c : Candidate} (hc : c ∈ cs) (hhere : here ≤ c.2.start) :
    c ∈ winners here cs ∨ ∃ w ∈ winners here cs, R w c ∧ c.2.start < w.2.stop := by
  induction cs generalizing here with
  | nil => simp at hc
  | cons d rest ih =>
    obtain ⟨hd, hrest⟩ := List.pairwise_cons.1 hcs
    rw [winners]
    split
    next hlt =>
      rcases List.mem_cons.1 hc with rfl | hc
      · omega
      · exact ih hrest hc hhere
    next =>
      rcases List.mem_cons.1 hc with rfl | hc
      · exact .inl List.mem_cons_self
      · -- `c` comes after the winner `d`, so it starts in `d` or behind it
        by_cases hstop : c.2.start < d.2.stop
        · exact .inr ⟨d, List.mem_cons_self, hd c hc, hstop⟩
        · rcases ih hrest hc (Nat.le_of_not_lt hstop) with hwins | ⟨w, hw, hwc⟩
          · exact .inl (List.mem_cons_of_mem d hwins)
          · exact .inr ⟨w, List.mem_cons_of_mem d hw, hwc⟩

section Lengths
variable {cs : List Candidate} (hpos : ∀ c ∈ cs, c.2.start < c.2.stop)
include hpos

theorem le_start_of_mem_winners {here : Nat} {w : Candidate} (hw : w ∈ winners here cs) :
    here ≤ w.2.start := by
  induction cs generalizing here with
  | nil => simp [winners] at hw
  | cons c rest ih =>
    have hrest := fun d hd => hpos d (List.mem_cons_of_mem c hd)
    rw [winners] at hw
    split at hw
    next => exact ih hrest hw
    next hc =>
      rcases List.mem_cons.1 hw with rfl | hw
      · omega
      · have hle := ih hrest hw
        have hlt := hpos c List.mem_cons_self
        omega

/-- A candidate behind offset `here` starts inside a winner. -/
theorem exists_mem_winners (hord : Ordered cs) {here : Nat} {c : Candidate} (hc : c ∈ cs)
    (hhere : here ≤ c.2.start) :
    ∃ w ∈ winners here cs, w.2.start ≤ c.2.start ∧ c.2.start < w.2.stop := by
  rcases mem_winners_or_exists hord hc hhere with hwins | ⟨w, hw, hle, hlt⟩
  · exact ⟨c, hwins, Nat.le_refl _, hpos c hc⟩
  · exact ⟨w, hw, hle, hlt⟩

/-- Each winner starts no earlier than the end of the winners before it. -/
theorem winners_disjoint (here : Nat) :
    (winners here cs).Pairwise fun a b => a.2.stop ≤ b.2.start := by
  induction cs generalizing here with
  | nil => simp [winners]
  | cons c rest ih =>
    have hrest := fun d hd => hpos d (List.mem_cons_of_mem c hd)
    rw [winners]
    split
    · exact ih hrest here
    · exact List.pairwise_cons.2
        ⟨fun w hw => le_start_of_mem_winners hrest hw, ih hrest c.2.stop⟩

end Lengths
end Stencil.Template
