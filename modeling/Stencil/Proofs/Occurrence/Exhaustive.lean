import Stencil.Proofs.Occurrence

/-! # The search is exhaustive

The search steps from one occurrence to the least one behind it until there is none.  Each step starts
at least one needle further on, so it comes to an end, and what it has returned then leaves no
occurrence in the gaps.  No other spans do that without overlapping.
-/
namespace Stencil.Occurrence

variable {needle text : Text} {i : Nat} {spans spans' : List (Span Nat)}

/-- A search from an offset on, step by step: the spans that it returns when it has come to an end. -/
inductive Search (needle text : Text) : Nat → List (Span Nat) → Prop
  | empty {i : Nat} (hempty : needle = []) : Search needle text i []
  | done {i : Nat} (hnone : ∀ j, i ≤ j → ¬At needle text j) : Search needle text i []
  | next {i j : Nat} {spans : List (Span Nat)} (hne : needle ≠ []) (hle : i ≤ j)
      (hat : At needle text j) (hleast : ∀ k, i ≤ k → At needle text k → j ≤ k)
      (hrest : Search needle text (j + needle.length) spans) :
      Search needle text i (⟨j, j + needle.length⟩ :: spans)

/-- The spans spell the needle from left to right without overlapping, and every occurrence from
offset `i` on begins inside one of them. -/
structure Exhausts (needle text : Text) (i : Nat) (spans : List (Span Nat)) : Prop where
  increasing : spans.Pairwise fun s t => s.start < t.start
  disjoint : spans.Pairwise fun s t => ¬s.Overlaps t
  le_start : ∀ s ∈ spans, i ≤ s.start
  spells : ∀ s ∈ spans, At needle text s.start ∧ s.stop = s.start + needle.length
  covers : needle ≠ [] → ∀ j, i ≤ j → At needle text j → ∃ s ∈ spans, s.start ≤ j ∧ j < s.stop
  eq_nil : needle = [] → spans = []

namespace Exhausts

theorem of_nil (hnone : needle ≠ [] → ∀ j, i ≤ j → ¬At needle text j) :
    Exhausts needle text i [] where
  increasing := .nil
  disjoint := .nil
  le_start := by simp
  spells := by simp
  covers hne j hij hat := absurd hat (hnone hne j hij)
  eq_nil _ := rfl

/-- The least occurrence, and what exhausts the text behind it. -/
theorem cons {j : Nat} (hne : needle ≠ []) (hij : i ≤ j) (hat : At needle text j)
    (hleast : ∀ k, i ≤ k → At needle text k → j ≤ k)
    (h : Exhausts needle text (j + needle.length) spans) :
    Exhausts needle text i (⟨j, j + needle.length⟩ :: spans) where
  increasing := by
    refine List.pairwise_cons.2 ⟨fun t ht => ?_, h.increasing⟩
    have hpos := List.length_pos_iff.2 hne
    have hle := h.le_start t ht
    dsimp only
    omega
  disjoint := by
    refine List.pairwise_cons.2 ⟨fun t ht hoverlap => ?_, h.disjoint⟩
    exact Nat.not_le.2 hoverlap.2 (h.le_start t ht)
  le_start := by
    refine List.forall_mem_cons.2 ⟨hij, fun t ht => ?_⟩
    have hle := h.le_start t ht
    omega
  spells := List.forall_mem_cons.2 ⟨⟨hat, rfl⟩, h.spells⟩
  covers _ k hik hk := by
    by_cases hlt : k < j + needle.length
    · exact ⟨_, List.mem_cons_self, hleast k hik hk, hlt⟩
    · obtain ⟨s, hs, hin⟩ := h.covers hne k (Nat.le_of_not_lt hlt) hk
      exact ⟨s, List.mem_cons_of_mem _ hs, hin⟩
  eq_nil hempty := absurd hempty hne

theorem ne_nil (h : Exhausts needle text i spans) {s : Span Nat} (hs : s ∈ spans) : needle ≠ [] := by
  intro hempty
  rw [h.eq_nil hempty] at hs
  cases hs

theorem eq_of_overlaps (h : Exhausts needle text i spans) {s t : Span Nat} (hs : s ∈ spans)
    (ht : t ∈ spans) (hoverlap : s.Overlaps t) : s = t := by
  have hsymm : Std.Symm fun s t : Span Nat => ¬s.Overlaps t :=
    ⟨fun a b hab hba => hab hba.symm⟩
  by_contra hne
  exact h.disjoint.set_pairwise hs ht hne hoverlap

/-- A span of one list is in the other, if that holds of the spans in front of it the other way
round. -/
theorem mem_of_mem (h : Exhausts needle text i spans) (h' : Exhausts needle text i spans')
    {s : Span Nat} (hbefore : ∀ t ∈ spans', t.start < s.start → t ∈ spans) (hs : s ∈ spans) :
    s ∈ spans' := by
  have hne := h.ne_nil hs
  have hpos := List.length_pos_iff.2 hne
  obtain ⟨hat, hstop⟩ := h.spells s hs
  obtain ⟨t, ht, hle, hlt⟩ := h'.covers hne s.start (h.le_start s hs) hat
  have htstop := (h'.spells t ht).2
  rcases Nat.eq_or_lt_of_le hle with heq | hstart
  · obtain rfl : t = s := by
      cases t
      cases s
      simp_all
    exact ht
  · have hoverlap : t.Overlaps s := ⟨by omega, hlt⟩
    rwa [← h.eq_of_overlaps (hbefore t ht hstart) hs hoverlap]

/-- No two lists exhaust the occurrences. -/
theorem unique (h : Exhausts needle text i spans) (h' : Exhausts needle text i spans') :
    spans = spans' := by
  have hagree : ∀ (n : Nat) (s : Span Nat), s.start = n → (s ∈ spans ↔ s ∈ spans') := by
    intro n
    induction n using Nat.strong_induction_on with
    | _ n ih =>
      rintro s rfl
      constructor
      · exact h.mem_of_mem h' fun t ht hlt => (ih t.start hlt t rfl).2 ht
      · exact h'.mem_of_mem h fun t ht hlt => (ih t.start hlt t rfl).1 ht
  have hirrefl : Std.Irrefl fun s t : Span Nat => s.start < t.start :=
    ⟨fun s => Nat.lt_irrefl s.start⟩
  have hasymm : Std.Asymm fun s t : Span Nat => s.start < t.start :=
    ⟨fun s t hst => Nat.lt_asymm hst⟩
  exact List.Pairwise.eq_of_mem_iff h.increasing h'.increasing fun s => hagree s.start s rfl

end Exhausts

/-- A search that has come to an end has exhausted the occurrences. -/
theorem Search.exhausts (h : Search needle text i spans) : Exhausts needle text i spans := by
  induction h with
  | empty hempty => exact .of_nil fun hne => absurd hempty hne
  | done hnone => exact .of_nil fun _ => hnone
  | next hne hle hat hleast _ ih => exact ih.cons hne hle hat hleast

/-- A search comes to an end. -/
theorem exists_search (needle text : Text) (i : Nat) : ∃ spans, Search needle text i spans := by
  by_cases hempty : needle = []
  · exact ⟨[], .empty hempty⟩
  have hpos := List.length_pos_iff.2 hempty
  induction hn : text.length - i using Nat.strong_induction_on generalizing i with
  | _ n ih =>
    by_cases hsome : ∃ j, i ≤ j ∧ At needle text j
    · have hnext := Nat.find_spec hsome
      have hle := hnext.2.length_le hempty
      obtain ⟨spans, hrest⟩ := ih _ (by omega) (Nat.find hsome + needle.length) rfl
      refine ⟨_, .next hempty hnext.1 hnext.2 (fun k hik hk => ?_) hrest⟩
      exact Nat.find_min' hsome ⟨hik, hk⟩
    · exact ⟨[], .done fun j hij hat => hsome ⟨j, hij, hat⟩⟩

theorem exhausts_all (needle text : Text) : Exhausts needle text 0 (all needle text) where
  increasing := by
    refine (all_pairwise needle text).imp_of_mem fun {s t} hs _ hst => ?_
    obtain ⟨hne, -, hstop⟩ := of_mem_all hs
    have hpos := List.length_pos_iff.2 hne
    omega
  disjoint := by
    apply (all_pairwise needle text).imp
    intro s t hst hoverlap
    exact Nat.not_le.2 hoverlap.2 hst
  le_start _ _ := Nat.zero_le _
  spells _ hs := (of_mem_all hs).2
  covers hne _ _ hat := exists_mem_all hne hat
  eq_nil hempty := by simp [all, hempty]

/-- The spans that are returned are the only ones that exhaust the occurrences, and the only ones that
a search comes to its end with. -/
theorem eq_all_iff (needle text : Text) (spans : List (Span Nat)) :
    (spans = all needle text ↔ Exhausts needle text 0 spans) ∧
      (spans = all needle text ↔ Search needle text 0 spans) := by
  have hall := exhausts_all needle text
  refine ⟨⟨?_, fun h => h.unique hall⟩, ⟨?_, fun h => h.exhausts.unique hall⟩⟩
  · rintro rfl
    exact hall
  · rintro rfl
    obtain ⟨found, hfound⟩ := exists_search needle text 0
    rwa [hall.unique hfound.exhausts]

example : all "aa".toList "aaaaa".toList = [⟨0, 2⟩, ⟨2, 4⟩] := by decide

end Stencil.Occurrence
