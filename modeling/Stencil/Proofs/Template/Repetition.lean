import Stencil.Proofs.Template.Deviation

/-! # Repeated targets

A target with a pattern captures one text for each block that refers to it.  So a candidate that
follows the template is read exactly if no such target is repeated, and otherwise the first one that
is repeated is reported, with its positions and with the text that was captured at each of them.
-/
namespace Stencil
open Template

/-- The target with index `i` has a pattern, and more than one block refers to it. -/
def Template.Repeats (t : Template) (patterns : List (Option Pattern)) (i : Nat) : Prop :=
  (∃ p, patterns[i]? = some (some p)) ∧ 2 ≤ (t.referencesTo i).length

theorem Template.exists_block_of_two_le {t : Template} {i : Nat}
    (h : 2 ≤ (t.referencesTo i).length) : ∃ b ∈ t.blocks, b.target = i := by
  by_contra hall
  have hnil := (referencesTo_eq_nil_iff (t := t)).2 fun b hb hi => hall ⟨b, hb, hi⟩
  rw [hnil] at h
  simp at h

namespace Reader
variable {patterns : List (Option Pattern)}

section Lockstep
variable {input rest : Text} {blocks : List Block} {texts : List Text}

theorem Lockstep.length_eq (h : Lockstep patterns input blocks texts rest) :
    texts.length = blocks.length := by
  induction h with
  | nil => rfl
  | cons _ _ ih => simp [ih]

/-- Blocks take a text apart in one way only. -/
theorem Lockstep.texts_unique {rest' : Text} {texts' : List Text}
    (h : Lockstep patterns input blocks texts rest)
    (h' : Lockstep patterns input blocks texts' rest') : texts' = texts := by
  induction h generalizing rest' texts' with
  | nil => cases h' with
    | nil => rfl
  | @cons b blocks w texts input rest htaken _ ih =>
    generalize hinput : b.static ++ (w ++ input) = whole at h'
    cases h' with
    | @cons _ _ w' texts' input' _ htaken' htail' =>
      have hbehind := List.append_cancel_left hinput
      obtain rfl : w = w' := Option.some.inj (htaken.symm.trans (hbehind ▸ htaken'))
      obtain rfl := List.append_cancel_left hbehind
      rw [ih htail']

/-- For a target with a pattern there is one capture for each block that refers to it. -/
theorem filter_capturesFrom (hlength : texts.length = blocks.length) (position i : Nat) :
    ((capturesFrom patterns position blocks texts).filter fun c => c.target == (i : Int)) =
      if patterned patterns i then
        (blocks.zipIdx position).filterMap fun (b, k) =>
          if b.target = i then some ⟨k, i, (texts[k - position]?).getD []⟩ else none
      else [] := by
  induction blocks generalizing position texts with
  | nil => simp [capturesFrom]
  | cons b blocks ih =>
    cases texts with
    | nil => simp at hlength
    | cons w texts =>
      have htail : ((blocks.zipIdx (position + 1)).filterMap fun (b, k) =>
            if b.target = i then some (⟨k, i, (texts[k - (position + 1)]?).getD []⟩ : Capture)
            else none) =
          (blocks.zipIdx (position + 1)).filterMap fun (b, k) =>
            if b.target = i then some ⟨k, i, ((w :: texts)[k - position]?).getD []⟩ else none := by
        refine List.filterMap_congr fun p hp => ?_
        have hle := List.le_snd_of_mem_zipIdx hp
        have hindex : p.2 - position = p.2 - (position + 1) + 1 := by omega
        simp [hindex]
      rw [capturesFrom, List.filter_append, ih (by simpa using hlength), htail]
      by_cases hb : b.target = i
      · by_cases hp : patterned patterns i
        · simp [capture, hb, hp]
        · simp [capture, hb, hp]
      · have hnone : (capture patterns position b w).filter (fun c => c.target == (i : Int)) = [] := by
          rw [List.filter_eq_nil_iff]
          intro c hc
          obtain ⟨-, rfl⟩ := mem_capture_iff.1 hc
          simpa using hb
        simp [hnone, hb]

end Lockstep

/-- The positions at which texts were captured for the target with index `i`. -/
def capturedPositions (captures : List Capture) (i : Nat) : List Nat :=
  (captures.filter fun c => c.target == (i : Int)).map (·.position)

theorem patterned_natCast_iff {i : Nat} :
    patterned patterns i = true ↔ ∃ p, patterns[i]? = some (some p) := by
  rw [patterned, getSigned_natCast]
  cases hi : patterns[i]? with
  | none => simp
  | some p => cases p <;> simp

section Template
variable {t : Template} {texts : List Text} (hlength : texts.length = t.blocks.length) (i : Nat)
include hlength

theorem map_filter_capturesFrom {α : Type} (g : Capture → α) :
    ((capturesFrom patterns 0 t.blocks texts).filter fun c => c.target == (i : Int)).map g =
      if patterned patterns i then
        (t.referencesTo i).map fun k => g ⟨k, i, (texts[k]?).getD []⟩
      else [] := by
  rw [filter_capturesFrom hlength]
  split
  · simp only [referencesTo, List.map_filterMap]
    refine List.filterMap_congr fun p _ => ?_
    by_cases hp : p.1.target = i <;> simp [hp]
  · rfl

theorem capturedTexts_eq :
    capturedTexts (capturesFrom patterns 0 t.blocks texts) i =
      if patterned patterns i then (t.referencesTo i).map fun k => (texts[k]?).getD [] else [] :=
  map_filter_capturesFrom hlength i (·.value)

theorem capturedPositions_eq :
    capturedPositions (capturesFrom patterns 0 t.blocks texts) i =
      if patterned patterns i then t.referencesTo i else [] := by
  rw [capturedPositions, map_filter_capturesFrom hlength i (·.position), List.map_id']

theorem two_le_capturedTexts_iff :
    2 ≤ (capturedTexts (capturesFrom patterns 0 t.blocks texts) i).length ↔
      t.Repeats patterns i := by
  rw [capturedTexts_eq hlength, Repeats, ← patterned_natCast_iff]
  by_cases hp : patterned patterns i <;> simp [hp]

end Template

/-- If a candidate is read and all targets have patterns, no target is referred to twice. -/
theorem length_referencesTo_le_one {r : Reader} {candidate : Text} {values : List (Option Text)}
    (h : r.read candidate = .ok values)
    (hbounded : ∀ b ∈ r.template.blocks, ∃ i : Nat, b.target = i ∧ i < r.template.targets.length)
    (hpatterned : ∀ b ∈ r.template.blocks, patterned r.patterns b.target = true) (i : Nat) :
    (r.template.referencesTo i).length ≤ 1 := by
  by_contra hle
  have htwo : 2 ≤ (r.template.referencesTo i).length := by omega
  obtain ⟨b, hb, hi⟩ := exists_block_of_two_le htwo
  obtain ⟨j, hj, hlt⟩ := hbounded b hb
  obtain rfl : j = i := by omega
  obtain ⟨texts, hlock, hlength, hvalues⟩ := read_eq_ok_iff.1 h
  have hrepeats : r.template.Repeats r.patterns j :=
    ⟨patterned_natCast_iff.1 (hi ▸ hpatterned b hb), htwo⟩
  have hmany := (two_le_capturedTexts_iff hlock.length_eq j).2 hrepeats
  have hj : j < values.length := hlength ▸ hlt
  rw [hvalues j values[j] (List.getElem?_eq_getElem hj)] at hmany
  revert hmany
  cases values[j] <;> simp

/-- What is read, if all targets have patterns, are the texts that the blocks took. -/
theorem eq_readBack_of_read {r : Reader} {candidate : Text} {values : List (Option Text)}
    (h : r.read candidate = .ok values)
    (hbounded : ∀ b ∈ r.template.blocks, ∃ i : Nat, b.target = i ∧ i < r.template.targets.length)
    (hpatterned : ∀ b ∈ r.template.blocks, patterned r.patterns b.target = true) :
    values = r.template.readBack (values.map (·.getD [])) ∧
      Lockstep r.patterns candidate r.template.blocks
        (r.template.blocks.map fun b => valueAt (values.map (·.getD [])) b.target)
        r.template.final := by
  obtain ⟨texts, hlock, hlength, hvalues⟩ := read_eq_ok_iff.1 h
  have htexts := texts_eq_map_valueAt hlock (fun b hb => hlength ▸ hbounded b hb) hvalues
  rw [htexts] at hlock
  have honce := length_referencesTo_le_one h hbounded hpatterned
  have hback := (read_eq_readBack_iff hbounded hpatterned fun i _ => honce i).2 hlock
  exact ⟨Except.ok.inj (h.symm.trans hback), hlock⟩

section Gather
variable {captures : List Capture} {targets : List Text}

/-- What is reported for a target that has captured several texts. -/
def repetition (captures : List Capture) (i : Nat) (target : Text) : Repetition :=
  ⟨target, i, (capturedPositions captures i).map fun k : Nat => (k : Int), capturedTexts captures i⟩

theorem gather_cons_of_two_le {i : Nat} {target : Text} (h : 2 ≤ (capturedTexts captures i).length) :
    gather captures i (target :: targets) = .error (repetition captures i target) := by
  rw [gather, repetition, capturedPositions, capturedTexts]
  rw [capturedTexts] at h
  cases hfound : captures.filter fun c => c.target == (i : Int) with
  | nil => simp [hfound] at h
  | cons c rest =>
    cases rest with
    | nil => simp [hfound] at h
    | cons d rest =>
      rw [List.map_map]
      rfl

theorem exists_toList_of_lt_two {i : Nat} (h : (capturedTexts captures i).length < 2) :
    ∃ v : Option Text, capturedTexts captures i = v.toList := by
  cases hfound : capturedTexts captures i with
  | nil => exact ⟨none, rfl⟩
  | cons w rest =>
    obtain rfl : rest = [] := by
      rw [hfound, List.length_cons] at h
      exact List.length_eq_zero_iff.1 (by omega)
    exact ⟨some w, rfl⟩

/-- Gathering fails exactly at the first target that has captured more than one text. -/
theorem gather_eq_error_iff {i : Nat} {rep : Repetition} :
    gather captures i targets = .error rep ↔
      ∃ k target, targets[k]? = some target ∧ 2 ≤ (capturedTexts captures (i + k)).length ∧
        (∀ j < k, (capturedTexts captures (i + j)).length < 2) ∧
          rep = repetition captures (i + k) target := by
  induction targets generalizing i with
  | nil => simp [gather]
  | cons target targets ih =>
    by_cases hrepeated : 2 ≤ (capturedTexts captures i).length
    · rw [gather_cons_of_two_le hrepeated]
      constructor
      · intro h
        exact ⟨0, target, rfl, hrepeated, by simp, (Except.error.inj h).symm⟩
      · rintro ⟨k, other, hk, -, hfirst, rfl⟩
        cases k with
        | zero =>
          obtain rfl : target = other := by simpa using hk
          rfl
        | succ k => exact absurd (hfirst 0 (Nat.succ_pos k)) (Nat.not_lt.2 hrepeated)
    · have hlt := Nat.lt_of_not_le hrepeated
      obtain ⟨v, hv⟩ := exists_toList_of_lt_two hlt
      rw [gather_cons_of_captured hv, map_eq_error_iff, ih]
      constructor
      · rintro ⟨k, other, hk, hmany, hfirst, rfl⟩
        have hindex : i + 1 + k = i + (k + 1) := by omega
        refine ⟨k + 1, other, hk, hindex ▸ hmany, fun j hj => ?_, hindex ▸ rfl⟩
        cases j with
        | zero => exact hlt
        | succ j =>
          have hj := hfirst j (Nat.lt_of_succ_lt_succ hj)
          rwa [Nat.add_assoc, Nat.add_comm 1] at hj
      · rintro ⟨k, other, hk, hmany, hfirst, rfl⟩
        cases k with
        | zero => exact absurd hmany hrepeated
        | succ k =>
          have hindex : i + (k + 1) = i + 1 + k := by omega
          refine ⟨k, other, hk, hindex ▸ hmany, fun j hj => ?_, hindex ▸ rfl⟩
          have hj := hfirst (j + 1) (Nat.succ_lt_succ hj)
          rwa [Nat.add_comm j, ← Nat.add_assoc] at hj

end Gather

section Source
variable {r : Reader} {candidate source : Text} (hsource : r.template.source = .ok source)
include hsource

/-- A candidate that follows the template is refused exactly if some target with a pattern is repeated,
and it is the first of these targets that is reported. -/
theorem read_eq_tooMany_iff {rep : Repetition} {s : Option Surroundings} :
    r.read candidate = .error (.error ⟨.tooMany rep, s⟩) ↔
      s = some (.ofRead source candidate) ∧
        ∃ texts, Lockstep r.patterns candidate r.template.blocks texts r.template.final ∧
          ∃ i : Nat, ∃ target, r.template.targets[i]? = some target ∧
            r.template.Repeats r.patterns i ∧ (∀ j < i, ¬r.template.Repeats r.patterns j) ∧
              rep = ⟨target, i, (r.template.referencesTo i).map fun k : Nat => (k : Int),
                (r.template.referencesTo i).map fun k => (texts[k]?).getD []⟩ := by
  have hread : r.read candidate = .error (.error ⟨.tooMany rep, s⟩) ↔
      s = some (.ofRead source candidate) ∧
        ∃ captures, readBlocks r.patterns r.template.final 0 0 candidate r.template.blocks =
          .ok captures ∧ gather captures 0 r.template.targets = .error rep := by
    rw [read]
    cases hblocks : readBlocks r.patterns r.template.final 0 0 candidate r.template.blocks with
    | ok captures =>
      simp only [mapError_eq_error_iff, report_of_source hsource]
      simp [and_comm, eq_comm]
    | error failure => cases failure <;> simp [report_of_source hsource]
  rw [hread]
  refine and_congr_right fun _ => ?_
  constructor
  · rintro ⟨captures, hblocks, hgather⟩
    obtain ⟨texts, hlock, rfl⟩ := readBlocks_eq_ok_iff.1 hblocks
    obtain ⟨i, target, htarget, hmany, hfirst, rfl⟩ := gather_eq_error_iff.1 hgather
    have hlength := hlock.length_eq
    simp only [Nat.zero_add] at hmany hfirst
    have hrepeats := (two_le_capturedTexts_iff hlength i).1 hmany
    refine ⟨texts, hlock, i, target, htarget, hrepeats, fun j hj => ?_, ?_⟩
    · rw [← two_le_capturedTexts_iff hlength j]
      exact Nat.not_le.2 (hfirst j hj)
    · have hpatterned := patterned_natCast_iff.2 hrepeats.1
      simp [repetition, capturedPositions_eq hlength, capturedTexts_eq hlength, hpatterned]
  · rintro ⟨texts, hlock, i, target, htarget, hrepeats, hfirst, rfl⟩
    have hlength := hlock.length_eq
    refine ⟨_, readBlocks_eq_ok_iff.2 ⟨texts, hlock, rfl⟩, gather_eq_error_iff.2 ?_⟩
    simp only [Nat.zero_add]
    refine ⟨i, target, htarget, (two_le_capturedTexts_iff hlength i).2 hrepeats, fun j hj => ?_, ?_⟩
    · refine Nat.lt_of_not_le fun hmany => hfirst j hj ?_
      exact (two_le_capturedTexts_iff hlength j).1 hmany
    · have hpatterned := patterned_natCast_iff.2 hrepeats.1
      simp [repetition, capturedPositions_eq hlength, capturedTexts_eq hlength, hpatterned]

/-- If some target is repeated, every candidate that follows the template is refused for the first
one of them. -/
theorem exists_tooMany_iff
    (hbounded : ∀ b ∈ r.template.blocks, ∃ i : Nat, b.target = i ∧ i < r.template.targets.length) :
    (∃ rep s, r.read candidate = .error (.error ⟨.tooMany rep, s⟩)) ↔
      (∃ texts, Lockstep r.patterns candidate r.template.blocks texts r.template.final) ∧
        ∃ i, r.template.Repeats r.patterns i := by
  classical
  simp only [read_eq_tooMany_iff hsource]
  constructor
  · rintro ⟨rep, s, -, texts, hlock, i, target, -, hrepeats, -⟩
    exact ⟨⟨texts, hlock⟩, i, hrepeats⟩
  · rintro ⟨⟨texts, hlock⟩, hsome⟩
    have hrepeats := Nat.find_spec hsome
    obtain ⟨b, hb, hi⟩ := exists_block_of_two_le hrepeats.2
    obtain ⟨i, hib, hlt⟩ := hbounded b hb
    obtain rfl : i = Nat.find hsome := by omega
    exact ⟨_, _, rfl, texts, hlock, _, _, List.getElem?_eq_getElem hlt, hrepeats,
      fun j hj => Nat.find_min hsome hj, rfl⟩

/-- A read ends with a value for each target, with a deviation or with a repeated target. -/
theorem read_outcome
    (htargets : ∀ b ∈ r.template.blocks, getSigned? r.patterns b.target ≠ none) :
    (∃ values, r.read candidate = .ok values ∧ values.length = r.template.targets.length) ∨
      (∃ d s, r.read candidate = .error (.error ⟨.badFormat d, s⟩)) ∨
        ∃ rep s, r.read candidate = .error (.error ⟨.tooMany rep, s⟩) := by
  cases hread : r.read candidate with
  | ok values =>
    obtain ⟨-, -, hlength, -⟩ := read_eq_ok_iff.1 hread
    exact .inl ⟨values, rfl, hlength⟩
  | error failure =>
    cases mismatch_of_read_eq_error hsource htargets hread with
    | badFormat d s => exact .inr (.inl ⟨d, s, rfl⟩)
    | tooMany rep s => exact .inr (.inr ⟨rep, s, rfl⟩)

end Source

section Compile
variable {text candidate : Text} {targets : List Text} {i : Nat}

theorem repeats_ofPatterns_iff :
    (compile text targets).Repeats (ofPatterns (compile text targets) patterns).patterns i ↔
      (compile text targets).Repeats patterns i := by
  refine and_congr_left fun htwo => ?_
  obtain ⟨b, hb, hi⟩ := exists_block_of_two_le htwo
  obtain ⟨j, hj, hlt⟩ := exists_index_of_mem_blocks hb
  obtain rfl : j = i := by omega
  rw [← patterned_natCast_iff, patterned, getSigned_ofPatterns hlt]
  cases patterns[j]? with
  | none => simp
  | some p => cases p <;> simp

theorem read_ofPatterns_outcome (text : Text) (targets : List Text)
    (patterns : List (Option Pattern)) (candidate : Text) :
    (∃ values, (ofPatterns (compile text targets) patterns).read candidate = .ok values ∧
        values.length = targets.length) ∨
      (∃ d s, (ofPatterns (compile text targets) patterns).read candidate =
        .error (.error ⟨.badFormat d, s⟩)) ∨
        ∃ rep s, (ofPatterns (compile text targets) patterns).read candidate =
          .error (.error ⟨.tooMany rep, s⟩) := by
  apply read_outcome (source_ofPatterns text targets patterns)
  intro b hb
  exact getSigned_ofPatterns_ne_none hb

theorem exists_tooMany_ofPatterns_iff :
    (∃ rep s, (ofPatterns (compile text targets) patterns).read candidate =
        .error (.error ⟨.tooMany rep, s⟩)) ↔
      (∃ texts, Lockstep (ofPatterns (compile text targets) patterns).patterns candidate
        (compile text targets).blocks texts (compile text targets).final) ∧
          ∃ i, (compile text targets).Repeats patterns i := by
  rw [← exists_congr fun _ => repeats_ofPatterns_iff]
  apply exists_tooMany_iff (source_ofPatterns text targets patterns)
  intro b hb
  exact exists_index_of_mem_blocks hb

end Compile

/-- A read ends with a value for each target, with a deviation or with a repeated target.  The last
happens exactly if the candidate follows the template and some target with a pattern is repeated; the
first such target is reported, with its positions and with what was captured at each of them. -/
theorem read_outcomes (text : Text) (targets : List Text) (patterns : List (Option Pattern))
    (candidate : Text) :
    ((∃ values, (ofPatterns (compile text targets) patterns).read candidate = .ok values ∧
          values.length = targets.length) ∨
        (∃ d s, (ofPatterns (compile text targets) patterns).read candidate =
          .error (.error ⟨.badFormat d, s⟩)) ∨
        ∃ rep s, (ofPatterns (compile text targets) patterns).read candidate =
          .error (.error ⟨.tooMany rep, s⟩)) ∧
      ((∃ rep s, (ofPatterns (compile text targets) patterns).read candidate =
          .error (.error ⟨.tooMany rep, s⟩)) ↔
        (∃ texts, Lockstep (ofPatterns (compile text targets) patterns).patterns candidate
          (compile text targets).blocks texts (compile text targets).final) ∧
            ∃ i, (compile text targets).Repeats patterns i) ∧
      (∀ rep s, (ofPatterns (compile text targets) patterns).read candidate =
          .error (.error ⟨.tooMany rep, s⟩) →
        ∃ i : Nat, (compile text targets).Repeats patterns i ∧
          (∀ j < i, ¬(compile text targets).Repeats patterns j) ∧
            rep.index = i ∧ targets[i]? = some rep.target ∧
              rep.positions = ((compile text targets).referencesTo i).map (fun k : Nat => (k : Int)) ∧
                ∀ texts, Lockstep (ofPatterns (compile text targets) patterns).patterns candidate
                    (compile text targets).blocks texts (compile text targets).final →
                  rep.values =
                    ((compile text targets).referencesTo i).map fun k => (texts[k]?).getD []) ∧
      ((∃ i, (compile text targets).Repeats patterns i) →
        ∀ values, (ofPatterns (compile text targets) patterns).read candidate ≠ .ok values) ∧
      ((¬∃ i, (compile text targets).Repeats patterns i) →
        ∀ rep s, (ofPatterns (compile text targets) patterns).read candidate ≠
          .error (.error ⟨.tooMany rep, s⟩)) := by
  have hsource := source_ofPatterns text targets patterns
  refine ⟨read_ofPatterns_outcome .., exists_tooMany_ofPatterns_iff, ?_, ?_, ?_⟩
  · intro rep s h
    obtain ⟨-, texts, hlock, i, target, htarget, hi, hfirst, rfl⟩ :=
      (read_eq_tooMany_iff hsource).1 h
    refine ⟨i, repeats_ofPatterns_iff.1 hi, fun j hj => ?_, rfl, htarget, rfl, fun texts' hlock' => ?_⟩
    · exact fun hrep => hfirst j hj (repeats_ofPatterns_iff.2 hrep)
    · obtain rfl := hlock.texts_unique hlock'
      rfl
  · -- a candidate that is read follows the template, so it would be refused as well
    intro hsome values h
    obtain ⟨texts, hlock, -⟩ := read_eq_ok_iff.1 h
    obtain ⟨rep, s, hrep⟩ := exists_tooMany_ofPatterns_iff.2 ⟨⟨texts, hlock⟩, hsome⟩
    rw [h] at hrep
    cases hrep
  · intro hnone rep s h
    exact hnone (exists_tooMany_ofPatterns_iff.1 ⟨rep, s, h⟩).2

/-- Digits for a target that stands twice. -/
theorem read_outcomes_twice :
    (compile "A-A".toList ["A".toList]).Repeats [some digits.toPattern] 0 ∧
      (∃ rep s, (ofPatterns (compile "A-A".toList ["A".toList]) [some digits.toPattern]).read
        "1-23".toList = .error (.error ⟨.tooMany rep, s⟩) ∧ rep.positions = [0, 1] ∧
          rep.values = ["1".toList, "23".toList]) ∧
      ∀ values, (ofPatterns (compile "A-A".toList ["A".toList]) [some digits.toPattern]).read
        "1-23".toList ≠ .ok values := by
  have hcompile : compile "A-A".toList ["A".toList] = ⟨[⟨[], 0⟩, ⟨['-'], 0⟩], [], ["A".toList]⟩ := by
    cbv
  have hrepeats : (compile "A-A".toList ["A".toList]).Repeats [some digits.toPattern] 0 := by
    rw [hcompile]
    exact ⟨⟨digits.toPattern, rfl⟩, by decide⟩
  have hlock : Lockstep (ofPatterns (compile "A-A".toList ["A".toList])
      [some digits.toPattern]).patterns "1-23".toList (compile "A-A".toList ["A".toList]).blocks
        ["1".toList, "23".toList] (compile "A-A".toList ["A".toList]).final := by
    rw [hcompile]
    have hfirst : taken [some digits.toPattern] 0 ("1".toList ++ "-23".toList) = some "1".toList := by
      cbv
    have hsecond : taken [some digits.toPattern] 0 ("23".toList ++ []) = some "23".toList := by cbv
    exact .cons (b := ⟨[], 0⟩) hfirst (.cons (b := ⟨['-'], 0⟩) hsecond (.nil _))
  obtain ⟨-, hiff, hreport, hnone, -⟩ := read_outcomes "A-A".toList ["A".toList]
    [some digits.toPattern] "1-23".toList
  obtain ⟨rep, s, hread⟩ := hiff.2 ⟨⟨_, hlock⟩, 0, hrepeats⟩
  obtain ⟨i, hi, hfirst, hindex, -, hpositions, hvalues⟩ := hreport rep s hread
  obtain rfl : i = 0 := Nat.eq_zero_of_not_pos fun hpos => hfirst 0 hpos hrepeats
  have hrefs : (compile "A-A".toList ["A".toList]).referencesTo (0 : Nat) = [0, 1] := by
    rw [hcompile]
    decide
  refine ⟨hrepeats, ⟨rep, s, hread, ?_, ?_⟩, hnone ⟨0, hrepeats⟩⟩
  · rw [hpositions, hrefs]
    rfl
  · rw [hvalues _ hlock, hrefs]
    rfl

end Reader
end Stencil
