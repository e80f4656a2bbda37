import Mathlib.Data.List.Induction
import Mathlib.Data.List.Nodup
import Stencil.Form

/-! # Formats by name

The formats of a form are put together one by one.  A name has the place where it comes first and the
format that comes with it last, so formats whose names are apart stay as they are.
-/
namespace Stencil.Form

variable {formats done : List (Text × Format)} {d t : Text × Format}

/-- The formats with one more, which replaces the format of the same name. -/
def replaced (done : List (Text × Format)) (d : Text × Format) : List (Text × Format) :=
  if done.any (·.1 == d.1) then done.map fun e => if e.1 = d.1 then (d.1, d.2) else e
  else done ++ [d]

theorem distinct_eq (formats : List (Text × Format)) :
    distinct formats = formats.foldl replaced [] := rfl

theorem distinct_append_singleton (formats : List (Text × Format)) (d : Text × Format) :
    distinct (formats ++ [d]) = replaced (distinct formats) d := by
  rw [distinct_eq, distinct_eq, List.foldl_append]
  rfl

theorem any_name_iff : done.any (·.1 == d.1) = true ↔ d.1 ∈ done.map Prod.fst := by
  rw [List.any_eq_true, List.mem_map]
  constructor
  · rintro ⟨e, he, hname⟩
    exact ⟨e, he, by simpa using hname⟩
  · rintro ⟨e, he, hname⟩
    exact ⟨e, he, by simpa using hname⟩

theorem replaced_of_notMem (h : d.1 ∉ done.map Prod.fst) : replaced done d = done ++ [d] := by
  rw [replaced, if_neg (any_name_iff.not.2 h)]

/-- A name that is there keeps its place, a new one comes last. -/
theorem names_replaced (done : List (Text × Format)) (d : Text × Format) :
    (replaced done d).map Prod.fst =
      if d.1 ∈ done.map Prod.fst then done.map Prod.fst else done.map Prod.fst ++ [d.1] := by
  by_cases h : d.1 ∈ done.map Prod.fst
  · rw [replaced, if_pos (any_name_iff.2 h), if_pos h, List.map_map]
    apply List.map_congr_left
    intro e _
    by_cases he : e.1 = d.1 <;> simp [he]
  · rw [replaced_of_notMem h, if_neg h, List.map_append, List.map_singleton]

theorem mem_replaced_iff : t ∈ replaced done d ↔ t = d ∨ t ∈ done ∧ t.1 ≠ d.1 := by
  by_cases h : d.1 ∈ done.map Prod.fst
  · rw [replaced, if_pos (any_name_iff.2 h), List.mem_map]
    constructor
    · rintro ⟨e, he, rfl⟩
      by_cases hname : e.1 = d.1
      · exact .inl (if_pos hname)
      · rw [if_neg hname]
        exact .inr ⟨he, hname⟩
    · rintro (rfl | ⟨ht, hname⟩)
      · obtain ⟨e, he, hname⟩ := List.mem_map.1 h
        exact ⟨e, he, if_pos hname⟩
      · exact ⟨t, ht, if_neg hname⟩
  · have hnew (ht : t ∈ done) : t.1 ≠ d.1 := fun hname => h (hname ▸ List.mem_map_of_mem ht)
    rw [replaced_of_notMem h, List.mem_append, List.mem_singleton]
    constructor
    · rintro (ht | rfl)
      · exact .inr ⟨ht, hnew ht⟩
      · exact .inl rfl
    · rintro (rfl | ⟨ht, -⟩)
      · exact .inr rfl
      · exact .inl ht

/-- The names stand in the order in which they come first. -/
theorem names_distinct (formats : List (Text × Format)) :
    (distinct formats).map Prod.fst = (formats.map Prod.fst).eraseDups := by
  induction formats using List.reverseRecOn with
  | nil => rfl
  | append_singleton formats d ih =>
    rw [distinct_append_singleton, names_replaced, ih, List.map_append, List.map_singleton,
      List.eraseDups_append]
    by_cases h : d.1 ∈ formats.map Prod.fst
    · rw [if_pos (List.mem_eraseDups.2 h)]
      simp [List.removeAll, h]
    · rw [if_neg (List.mem_eraseDups.not.2 h)]
      simp [List.removeAll, List.eraseDups_cons, h]

/-- No two formats have one name. -/
theorem nodup_distinct (formats : List (Text × Format)) :
    ((distinct formats).map Prod.fst).Nodup := by
  induction formats using List.reverseRecOn with
  | nil => exact List.nodup_nil
  | append_singleton formats d ih =>
    rw [distinct_append_singleton, names_replaced]
    by_cases h : d.1 ∈ (distinct formats).map Prod.fst
    · rwa [if_pos h]
    · rw [if_neg h, ← List.concat_eq_append, List.nodup_concat]
      exact ⟨h, ih⟩

/-- An entry with no other of its name behind it. -/
def LastOf (formats : List (Text × Format)) (t : Text × Format) : Prop :=
  ∃ before after, formats = before ++ t :: after ∧ t.1 ∉ after.map Prod.fst

theorem LastOf.mem (h : LastOf formats t) : t ∈ formats := by
  obtain ⟨before, after, rfl, -⟩ := h
  simp

theorem lastOf_append_singleton :
    LastOf (formats ++ [d]) t ↔ t = d ∨ LastOf formats t ∧ t.1 ≠ d.1 := by
  constructor
  · rintro ⟨before, after, heq, hname⟩
    rcases List.eq_nil_or_concat after with rfl | ⟨after, e, rfl⟩
    · exact .inl (List.singleton_inj.1 (List.append_inj' heq rfl).2).symm
    · rw [List.concat_eq_append, ← List.cons_append, ← List.append_assoc] at heq
      obtain ⟨rfl, he⟩ := List.append_inj' heq rfl
      obtain rfl := List.singleton_inj.1 he
      rw [List.concat_eq_append, List.map_append, List.mem_append, not_or] at hname
      exact .inr ⟨⟨before, after, rfl, hname.1⟩, fun hd => hname.2 (List.mem_singleton.2 hd)⟩
  · rintro (rfl | ⟨⟨before, after, rfl, hname⟩, hne⟩)
    · exact ⟨formats, [], rfl, List.not_mem_nil⟩
    · refine ⟨before, after ++ [d], by simp, ?_⟩
      rw [List.map_append, List.mem_append, not_or]
      exact ⟨hname, fun hd => hne (List.mem_singleton.1 hd)⟩

/-- Of the formats of one name the last one counts. -/
theorem mem_distinct_iff : t ∈ distinct formats ↔ LastOf formats t := by
  induction formats using List.reverseRecOn with
  | nil => simp [distinct, LastOf]
  | append_singleton formats d ih =>
    rw [distinct_append_singleton, mem_replaced_iff, lastOf_append_singleton, ih]

/-- Formats put together by name: the names stand in the order in which they come first, and each has
the format that comes with it last. -/
structure Merged (formats merged : List (Text × Format)) : Prop where
  names : merged.map Prod.fst = (formats.map Prod.fst).eraseDups
  mem_iff : ∀ t, t ∈ merged ↔ LastOf formats t

/-- Formats with names apart are known by their names in order and by their members. -/
theorem eq_of_names {fs gs : List (Text × Format)} (hnames : fs.map Prod.fst = gs.map Prod.fst)
    (hnodup : (fs.map Prod.fst).Nodup) (hmem : ∀ t ∈ fs, t ∈ gs) : fs = gs := by
  induction fs generalizing gs with
  | nil => exact (List.map_eq_nil_iff.1 hnames.symm).symm
  | cons f fs ih =>
    obtain ⟨g, gs, rfl, hname, hrest⟩ := List.map_eq_cons_iff.1 hnames.symm
    obtain ⟨hnotMem, hnodup⟩ := List.nodup_cons.1 hnodup
    obtain rfl : f = g := by
      rcases List.mem_cons.1 (hmem f List.mem_cons_self) with hf | hf
      · exact hf
      · exact absurd (hrest ▸ List.mem_map_of_mem hf) hnotMem
    have htail (t : Text × Format) (ht : t ∈ fs) : t ∈ gs := by
      rcases List.mem_cons.1 (hmem t (List.mem_cons_of_mem f ht)) with rfl | ht'
      · exact absurd (List.mem_map_of_mem ht) hnotMem
      · exact ht'
    rw [ih hrest.symm hnodup htail]

theorem merged_iff {merged : List (Text × Format)} :
    Merged formats merged ↔ merged = distinct formats := by
  constructor
  · rintro ⟨hnames, hmem⟩
    have hdistinct := hnames.trans (names_distinct formats).symm
    refine eq_of_names hdistinct ?_ fun t ht => mem_distinct_iff.2 ((hmem t).1 ht)
    rw [hdistinct]
    exact nodup_distinct formats
  · rintro rfl
    exact ⟨names_distinct formats, fun _ => mem_distinct_iff⟩

theorem distinct_of_nodup (h : (formats.map Prod.fst).Nodup) : distinct formats = formats := by
  induction formats using List.reverseRecOn with
  | nil => rfl
  | append_singleton formats d ih =>
    rw [List.map_append, List.map_singleton, ← List.concat_eq_append, List.nodup_concat] at h
    rw [distinct_append_singleton, ih h.2, replaced_of_notMem h.1]

end Stencil.Form
