import Stencil.Occurrence
import Mathlib

/-! # What the search for a text finds

A text stands at an offset of another if the rest from there begins with it.  The search returns only
places where the needle stands, and each place where it stands begins inside a span that is returned:
a place can be left out only for an earlier one that overlaps it.  Behind a text that no occurrence
leaves, the search starts afresh.
-/
namespace Stencil

/-- The spans have a place in common. -/
def Span.Overlaps (a b : Span Nat) : Prop := a.start < b.stop ∧ b.start < a.stop

theorem Span.Overlaps.symm {a b : Span Nat} (h : a.Overlaps b) : b.Overlaps a := ⟨h.2, h.1⟩

/-- The same stretch once `n` characters stand in front of the text. -/
def Span.shift (n : Nat) (s : Span Nat) : Span Nat := ⟨n + s.start, n + s.stop⟩

namespace Occurrence

/-- The needle stands in the text at offset `i`. -/
def At (needle text : Text) (i : Nat) : Prop := needle <+: text.drop i

instance (needle text : Text) (i : Nat) : Decidable (At needle text i) :=
  inferInstanceAs (Decidable (_ <+: _))

@[simp] theorem at_zero {needle text : Text} : At needle text 0 ↔ needle <+: text := Iff.rfl

@[simp] theorem at_cons_succ {needle text : Text} {c : Char} {i : Nat} :
    At needle (c :: text) (i + 1) ↔ At needle text i := Iff.rfl

theorem At.length_le {needle text : Text} {i : Nat} (h : At needle text i) (hn : needle ≠ []) :
    i + needle.length ≤ text.length := by
  have hle := List.IsPrefix.length_le h
  have hpos := List.length_pos_iff.2 hn
  rw [List.length_drop] at hle
  omega

theorem At.drop_eq {needle text : Text} {i : Nat} (h : At needle text i) :
    text.drop i = needle ++ text.drop (i + needle.length) := by
  obtain ⟨rest, hrest⟩ := h
  rw [← List.drop_drop, ← hrest, List.drop_left]

theorem at_drop {needle text : Text} {n i : Nat} :
    At needle (text.drop n) i ↔ At needle text (n + i) := by
  rw [At, At, List.drop_drop]

/-- A text that is met inside another stands there at some offset. -/
theorem infix_iff_exists_at {needle text : Text} : needle <:+: text ↔ ∃ i, At needle text i := by
  constructor
  · rintro ⟨before, after, rfl⟩
    refine ⟨before.length, ?_⟩
    rw [At, List.append_assoc, List.drop_left]
    exact List.prefix_append _ _
  · rintro ⟨i, h⟩
    exact h.isInfix.trans (List.drop_suffix i text).isInfix

/-- What stands in the beginning of a text stands in the whole. -/
theorem At.mono {needle part text : Text} {i : Nat} (h : At needle part i)
    (hp : part <+: text) : At needle text i := by
  obtain ⟨rest, rfl⟩ := hp
  rcases Nat.le_total i part.length with hi | hi
  · rw [At, List.drop_append_of_le_length hi]
    exact h.trans (List.prefix_append _ _)
  · rw [At, List.drop_eq_nil_of_le hi, List.prefix_nil] at h
    rw [h]
    exact List.nil_prefix

/-- A text that can overlap itself: some proper beginning of it is also its end. -/
def Bordered (text : Text) : Prop :=
  ∃ border, border ≠ [] ∧ border ≠ text ∧ border <+: text ∧ border <:+ text

theorem bordered_iff {text : Text} :
    Bordered text ↔ ∃ k < text.length, 0 < k ∧ text.drop k <+: text := by
  constructor
  · rintro ⟨border, hne, hproper, hbegin, hend⟩
    have hpos := List.length_pos_iff.2 hne
    have hlt : border.length < text.length := by
      refine Nat.lt_of_le_of_ne hbegin.length_le fun h => hproper (hbegin.eq_of_length h)
    refine ⟨text.length - border.length, by omega, by omega, ?_⟩
    rwa [← List.suffix_iff_eq_drop.1 hend]
  · rintro ⟨k, hk, hpos, hbegin⟩
    refine ⟨text.drop k, ?_, ?_, hbegin, List.drop_suffix k text⟩
    · intro h
      rw [List.drop_eq_nil_iff] at h
      omega
    · intro h
      have hlen := congrArg List.length h
      rw [List.length_drop] at hlen
      omega

instance (text : Text) : Decidable (Bordered text) := decidable_of_iff' _ bordered_iff

/-- A text that stands at two places that overlap can overlap itself. -/
theorem bordered_of_at {needle text : Text} {i j : Nat} (hi : At needle text i)
    (hj : At needle text j) (hij : i < j) (hlt : j < i + needle.length) : Bordered needle := by
  obtain ⟨k, rfl⟩ : ∃ k, j = i + k := ⟨j - i, by omega⟩
  refine bordered_iff.2 ⟨k, by omega, by omega, ?_⟩
  have hrest : text.drop (i + k) = needle.drop k ++ text.drop (i + needle.length) := by
    rw [← List.drop_drop, hi.drop_eq, List.drop_append_of_le_length (by omega)]
  have hborder : needle.drop k <+: text.drop (i + k) := ⟨_, hrest.symm⟩
  exact List.prefix_of_prefix_length_le hborder hj (by rw [List.length_drop]; omega)

section Starts
variable {needle : Text}

/-- A start that is found lies beyond the covered characters, and the needle stands there. -/
theorem at_of_mem_starts {covered here i : Nat} {text : Text}
    (h : i ∈ starts needle covered here text) :
    ∃ k, i = here + k ∧ covered ≤ k ∧ At needle text k := by
  induction text generalizing covered here with
  | nil => simp [starts] at h
  | cons c rest ih =>
    cases covered with
    | succ covered =>
      obtain ⟨k, rfl, hk, hat⟩ := ih (by simpa only [starts] using h)
      exact ⟨k + 1, by omega, by omega, hat⟩
    | zero =>
      simp only [starts] at h
      split at h
      next hp =>
        rcases List.mem_cons.1 h with rfl | h
        · exact ⟨0, rfl, Nat.le_refl 0, List.isPrefixOf_iff_prefix.1 hp⟩
        · obtain ⟨k, rfl, -, hat⟩ := ih h
          exact ⟨k + 1, by omega, by omega, hat⟩
      next =>
        obtain ⟨k, rfl, -, hat⟩ := ih h
        exact ⟨k + 1, by omega, by omega, hat⟩

/-- Wherever the needle stands beyond the covered characters, some start that is found is at most one
needle before. -/
theorem exists_mem_starts (hn : needle ≠ []) {covered k : Nat} (here : Nat) {text : Text}
    (hk : covered ≤ k) (hat : At needle text k) :
    ∃ i ∈ starts needle covered here text, i ≤ here + k ∧ here + k < i + needle.length := by
  have hpos := List.length_pos_iff.2 hn
  induction text generalizing covered k here with
  | nil =>
    have hle := hat.length_le hn
    rw [List.length_nil] at hle
    omega
  | cons c rest ih =>
    cases covered with
    | succ covered =>
      obtain ⟨k, rfl⟩ : ∃ j, k = j + 1 := ⟨k - 1, by omega⟩
      obtain ⟨i, hi, hle, hlt⟩ := ih (here + 1) (by omega : covered ≤ k) hat
      exact ⟨i, by simpa only [starts] using hi, by omega, by omega⟩
    | zero =>
      simp only [starts]
      split
      next =>
        -- the search goes on behind this start, which itself accounts for the places it covers
        by_cases hlt : k < needle.length
        · exact ⟨here, List.mem_cons_self, by omega, by omega⟩
        · obtain ⟨k, rfl⟩ : ∃ j, k = j + 1 := ⟨k - 1, by omega⟩
          obtain ⟨i, hi, hle, hlt⟩ :=
            ih (here + 1) (by omega : needle.length - 1 ≤ k) hat
          exact ⟨i, List.mem_cons_of_mem _ hi, by omega, by omega⟩
      next hp =>
        cases k with
        | zero => exact absurd (List.isPrefixOf_iff_prefix.2 hat) hp
        | succ k =>
          obtain ⟨i, hi, hle, hlt⟩ := ih (here + 1) (Nat.zero_le k) hat
          exact ⟨i, hi, by omega, by omega⟩

/-- A start that is found is at least one needle behind the one before it. -/
theorem starts_pairwise (hn : needle ≠ []) (covered here : Nat) (text : Text) :
    (starts needle covered here text).Pairwise fun i j => i + needle.length ≤ j := by
  have hpos := List.length_pos_iff.2 hn
  induction text generalizing covered here with
  | nil => simp [starts]
  | cons c rest ih =>
    cases covered with
    | succ covered => simpa [starts] using ih covered (here + 1)
    | zero =>
      simp only [starts]
      split
      next =>
        apply List.pairwise_cons.2
        constructor
        · intro j hj
          obtain ⟨k, rfl, hk, -⟩ := at_of_mem_starts hj
          omega
        · exact ih (needle.length - 1) (here + 1)
      next => exact ih 0 (here + 1)

theorem starts_add (n covered here : Nat) (text : Text) :
    starts needle covered (n + here) text = (starts needle covered here text).map (n + ·) := by
  induction text generalizing covered here with
  | nil => rfl
  | cons c rest ih =>
    cases covered with
    | succ covered => simp [starts, Nat.add_assoc, ih]
    | zero =>
      by_cases hp : needle.isPrefixOf (c :: rest)
      · simp [starts, hp, Nat.add_assoc, ih]
      · simp [starts, hp, Nat.add_assoc, ih]

/-- Covered characters are passed over. -/
theorem starts_covered (covered here : Nat) (text : Text) :
    starts needle covered here text = starts needle 0 (here + covered) (text.drop covered) := by
  induction text generalizing covered here with
  | nil => simp [starts]
  | cons c rest ih =>
    cases covered with
    | zero => rfl
    | succ covered => simp [starts, ih covered (here + 1), Nat.add_assoc, Nat.add_comm 1]

/-- If no occurrence reaches from one text into the text behind it, the search starts afresh there. -/
theorem starts_append {first second : Text} {covered : Nat} (here : Nat)
    (hcovered : covered ≤ first.length)
    (hwithin : ∀ i < first.length, At needle (first ++ second) i →
      i + needle.length ≤ first.length) :
    starts needle covered here (first ++ second) =
      starts needle covered here first ++ starts needle 0 (here + first.length) second := by
  induction first generalizing covered here with
  | nil =>
    obtain rfl := Nat.le_zero.1 hcovered
    rfl
  | cons c first ih =>
    have hlength : here + 1 + first.length = here + (c :: first).length := by
      rw [List.length_cons]
      omega
    have hrest : ∀ i < first.length, At needle (first ++ second) i →
        i + needle.length ≤ first.length := by
      intro i hi hat
      have hle := hwithin (i + 1) (Nat.succ_lt_succ hi) hat
      rw [List.length_cons] at hle
      omega
    cases covered with
    | succ covered =>
      simp only [List.cons_append, starts]
      rw [ih (here + 1) (Nat.le_of_succ_le_succ hcovered) hrest, hlength]
    | zero =>
      have hiff : needle.isPrefixOf (c :: (first ++ second)) = needle.isPrefixOf (c :: first) := by
        rw [Bool.eq_iff_iff, List.isPrefixOf_iff_prefix, List.isPrefixOf_iff_prefix]
        constructor
        · intro hp
          have hle := hwithin 0 (Nat.zero_lt_succ _) hp
          rw [Nat.zero_add] at hle
          exact List.prefix_of_prefix_length_le hp (List.prefix_append (c :: first) second) hle
        · intro hp
          exact hp.trans (List.prefix_append (c :: first) second)
      simp only [List.cons_append, starts, hiff]
      split
      next hp =>
        have hle := List.IsPrefix.length_le (List.isPrefixOf_iff_prefix.1 hp)
        rw [List.length_cons] at hle
        rw [ih (here + 1) (by omega) hrest, hlength, List.cons_append]
      next => rw [ih (here + 1) (Nat.zero_le _) hrest, hlength]

end Starts

/-- The spans that are returned do not overlap and come from left to right. -/
theorem all_pairwise (needle text : Text) :
    (all needle text).Pairwise fun s t => s.stop ≤ t.start := by
  rw [all]
  split
  next => simp
  next hn =>
    rw [List.pairwise_map]
    exact starts_pairwise (by simpa using hn) 0 0 text

/-- Every span that is returned spells the needle. -/
theorem of_mem_all {needle text : Text} {s : Span Nat} (h : s ∈ all needle text) :
    needle ≠ [] ∧ At needle text s.start ∧ s.stop = s.start + needle.length := by
  rw [all] at h
  split at h
  next => simp at h
  next hn =>
    obtain ⟨i, hi, rfl⟩ := List.mem_map.1 h
    obtain ⟨k, rfl, -, hat⟩ := at_of_mem_starts hi
    refine ⟨by simpa using hn, ?_, rfl⟩
    simpa using hat

/-- What is found in two texts put together, if no occurrence reaches from the first into the second. -/
theorem all_append {needle first second : Text}
    (hwithin : needle ≠ [] → ∀ i < first.length, At needle (first ++ second) i →
      i + needle.length ≤ first.length) :
    all needle (first ++ second) =
      all needle first ++ (all needle second).map (Span.shift first.length) := by
  by_cases hn : needle = []
  · simp [all, hn]
  · have hsecond : starts needle 0 (first.length + 0) second =
        (starts needle 0 0 second).map (first.length + ·) := starts_add first.length 0 0 second
    have hstarts := starts_append 0 (Nat.zero_le _) (hwithin hn)
    rw [Nat.zero_add, ← Nat.add_zero first.length, hsecond] at hstarts
    simp [all, hn, hstarts, Span.shift, Nat.add_assoc]

/-- Every place where the needle stands begins inside a span that is returned. -/
theorem exists_mem_all {needle text : Text} {i : Nat} (hn : needle ≠ []) (h : At needle text i) :
    ∃ s ∈ all needle text, s.start ≤ i ∧ i < s.stop := by
  obtain ⟨j, hj, hle, hlt⟩ := exists_mem_starts hn 0 (Nat.zero_le i) h
  refine ⟨⟨j, j + needle.length⟩, ?_, by simpa using hle, by simpa using hlt⟩
  rw [all, if_neg (by simpa using hn)]
  exact List.mem_map.2 ⟨j, hj, rfl⟩

/-- A needle that cannot overlap itself is found wherever it stands. -/
theorem mem_all_of_at {needle text : Text} (hborder : ¬ Bordered needle) (hne : needle ≠ []) {i : Nat}
    (hat : At needle text i) : ⟨i, i + needle.length⟩ ∈ all needle text := by
  obtain ⟨⟨start, stop⟩, hs, hle, hlt⟩ := exists_mem_all hne hat
  obtain ⟨-, hfound, hstop⟩ := of_mem_all hs
  rcases Nat.eq_or_lt_of_le hle with rfl | hstart
  · exact hstop ▸ hs
  · exact absurd (bordered_of_at hfound hat hstart (hstop ▸ hlt)) hborder

end Occurrence
end Stencil
