import Stencil.Proofs.Template.Lockstep

/-! # Gathering captures

The captures of a candidate that was read in lockstep are gathered by target.  A read ends well
exactly if no target has captured more than one text, and then its value says what it has captured.
-/
namespace Stencil.Reader
open Template

/-- The texts that were captured for the target with index `i`. -/
def capturedTexts (captures : List Capture) (i : Nat) : List Text :=
  (captures.filter fun c => c.target == (i : Int)).map (·.value)

theorem value_mem_capturedTexts {captures : List Capture} {c : Capture} {i : Nat}
    (hc : c ∈ captures) (hi : c.target = i) : c.value ∈ capturedTexts captures i :=
  List.mem_map.2 ⟨c, List.mem_filter.2 ⟨hc, by simp [hi]⟩, rfl⟩

theorem exists_of_mem_capturedTexts {captures : List Capture} {w : Text} {i : Nat}
    (hw : w ∈ capturedTexts captures i) : ∃ c ∈ captures, c.target = i := by
  obtain ⟨c, hc, rfl⟩ := List.mem_map.1 hw
  obtain ⟨hmem, hi⟩ := List.mem_filter.1 hc
  exact ⟨c, hmem, by simpa using hi⟩

/-- If all targets have patterns, a target with one text captures it once for each block that refers
to it. -/
theorem capturedTexts_map {patterns : List (Option Pattern)} {text : Int → Text}
    {blocks : List Block} (h : ∀ b ∈ blocks, patterned patterns b.target = true) (position i : Nat) :
    capturedTexts (capturesFrom patterns position blocks (blocks.map fun b => text b.target)) i =
      List.replicate (blocks.countP fun b => b.target = (i : Int)) (text i) := by
  induction blocks generalizing position with
  | nil => rfl
  | cons b blocks ih =>
    have hrest := ih (fun d hd => h d (List.mem_cons_of_mem b hd)) (position + 1)
    rw [capturedTexts] at hrest ⊢
    rw [List.map_cons, capturesFrom, capture, if_pos (h b List.mem_cons_self), List.filter_append,
      List.map_append, hrest]
    by_cases hb : b.target = i
    · simp [hb, List.replicate_succ]
    · simp [hb]

section Gather
variable {captures : List Capture} {i : Nat} {target : Text} {targets : List Text}

theorem gather_cons_of_captured {v : Option Text} (h : capturedTexts captures i = v.toList) :
    gather captures i (target :: targets) = (gather captures (i + 1) targets).map (v :: ·) := by
  rw [gather]
  rw [capturedTexts] at h
  cases hfound : captures.filter fun c => c.target == (i : Int) with
  | nil =>
    cases v with
    | none => rfl
    | some w => simp [hfound] at h
  | cons c rest =>
    cases v with
    | none => simp [hfound] at h
    | some w =>
      obtain ⟨rfl, rfl⟩ : c.value = w ∧ rest = [] := by simpa [hfound] using h
      rfl

/-- What a target adds to captures that are gathered without fault. -/
theorem gather_cons_eq_ok_iff {values : List (Option Text)} :
    gather captures i (target :: targets) = .ok values ↔
      ∃ (v : Option Text) (rest : List (Option Text)), capturedTexts captures i = v.toList ∧
        gather captures (i + 1) targets = .ok rest ∧ values = v :: rest := by
  constructor
  · intro h
    have hcaptured : ∃ v : Option Text, capturedTexts captures i = v.toList := by
      rw [gather] at h
      rw [capturedTexts]
      cases hfound : captures.filter fun c => c.target == (i : Int) with
      | nil => exact ⟨none, rfl⟩
      | cons c rest =>
        cases rest with
        | nil => exact ⟨some c.value, rfl⟩
        | cons d rest =>
          rw [hfound] at h
          cases h
    obtain ⟨v, hv⟩ := hcaptured
    rw [gather_cons_of_captured hv, map_eq_ok_iff] at h
    obtain ⟨rest, hrest, rfl⟩ := h
    exact ⟨v, rest, hv, hrest, rfl⟩
  · rintro ⟨v, rest, hv, hrest, rfl⟩
    rw [gather_cons_of_captured hv, hrest]
    rfl

end Gather

/-- Gathering ends well exactly if each target captured what its value says: one text, or none. -/
theorem gather_eq_ok_iff {captures : List Capture} {i : Nat} {targets : List Text}
    {values : List (Option Text)} :
    gather captures i targets = .ok values ↔
      values.length = targets.length ∧
        ∀ k v, values[k]? = some v → capturedTexts captures (i + k) = v.toList := by
  induction targets generalizing i values with
  | nil =>
    rw [gather, List.length_nil, List.length_eq_zero_iff]
    constructor
    · intro h
      obtain rfl : [] = values := Except.ok.inj h
      exact ⟨rfl, fun k v hv => by simp at hv⟩
    · rintro ⟨rfl, -⟩
      rfl
  | cons target targets ih =>
    rw [gather_cons_eq_ok_iff]
    constructor
    · rintro ⟨v, rest, hv, hgather, rfl⟩
      obtain ⟨hlen, hrest⟩ := ih.1 hgather
      refine ⟨congrArg (· + 1) hlen, fun k u hu => ?_⟩
      cases k with
      | zero =>
        obtain rfl : v = u := by simpa using hu
        exact hv
      | succ k =>
        rw [Nat.add_comm k 1, ← Nat.add_assoc]
        exact hrest k u (by simpa using hu)
    · rintro ⟨hlen, hvalues⟩
      cases values with
      | nil => simp at hlen
      | cons v rest =>
        refine ⟨v, rest, hvalues 0 v rfl, ih.2 ⟨Nat.succ.inj hlen, fun k u hu => ?_⟩, rfl⟩
        rw [Nat.add_assoc, Nat.add_comm 1 k]
        exact hvalues (k + 1) u (by simpa using hu)

/-- A read ends well exactly if the blocks take the candidate apart and each target captured what its
value says. -/
theorem read_eq_ok_iff {r : Reader} {candidate : Text} {values : List (Option Text)} :
    r.read candidate = .ok values ↔
      ∃ texts, Lockstep r.patterns candidate r.template.blocks texts r.template.final ∧
        values.length = r.template.targets.length ∧
        ∀ i v, values[i]? = some v →
          capturedTexts (capturesFrom r.patterns 0 r.template.blocks texts) i = v.toList := by
  constructor
  · intro h
    rw [read] at h
    split at h
    next => cases h
    next => cases h
    next captures hblocks =>
      obtain ⟨texts, hlock, rfl⟩ := readBlocks_eq_ok_iff.1 hblocks
      exact ⟨texts, hlock, by simpa using gather_eq_ok_iff.1 (mapError_eq_ok_iff.1 h)⟩
  · rintro ⟨texts, hlock, hvalues⟩
    rw [read, readBlocks_eq_ok_iff.2 ⟨texts, hlock, rfl⟩]
    exact mapError_eq_ok_iff.2 (gather_eq_ok_iff.2 (by simpa using hvalues))

end Stencil.Reader
