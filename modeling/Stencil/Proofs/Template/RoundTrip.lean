import Stencil.Proofs.Template.Gathering
import Stencil.Proofs.Template.Segmentation
import Stencil.Regex

/-! # Writing and reading

Filling out a template with the values that were read gives the candidate back.  Reading a template
that was filled out gives the values back exactly if, at each block, the pattern stops at the end of
the value in front of the text that follows.
-/
namespace Stencil
open Template Reader

/-- The expression `[0-9]+`. -/
def digits : Regex := ⟨"[0-9]+".toList, .chars (.set [.range 48 57] false .exact) 1 none .greedy⟩

variable {text : Text} {targets : List Text} {patterns : List (Option Pattern)}

theorem exists_index_of_mem_blocks {b : Block} (hb : b ∈ (compile text targets).blocks) :
    ∃ i : Nat, b.target = i ∧ i < (compile text targets).targets.length := by
  obtain ⟨i, heq, hlt, -⟩ := exists_target_of_mem_blocks hb
  exact ⟨i, heq, hlt⟩

theorem source_ofPatterns (text : Text) (targets : List Text) (patterns : List (Option Pattern)) :
    (ofPatterns (compile text targets) patterns).template.source = .ok text :=
  compile_source text targets

theorem getSigned_ofPatterns {t : Template} {i : Nat} (hi : i < t.targets.length) :
    getSigned? (ofPatterns t patterns).patterns i = some (patterns[i]?).join := by
  rw [getSigned_natCast, ofPatterns]
  simp [hi]

theorem getSigned_ofPatterns_ne_none {b : Block} (hb : b ∈ (compile text targets).blocks) :
    getSigned? (ofPatterns (compile text targets) patterns).patterns b.target ≠ none := by
  obtain ⟨i, hi, hlt⟩ := exists_index_of_mem_blocks hb
  rw [hi, getSigned_ofPatterns hlt]
  nofun

theorem taken_ofPatterns {b : Block} (hb : b ∈ (compile text targets).blocks) {i : Nat}
    (hi : b.target = i) {p : Pattern} (hp : patterns[i]? = some (some p)) (rest : Text) :
    taken (ofPatterns (compile text targets) patterns).patterns b.target rest = p.matched rest := by
  obtain ⟨j, hj, hlt⟩ := exists_index_of_mem_blocks hb
  obtain rfl : j = i := by omega
  rw [taken, hi, getSigned_ofPatterns hlt, hp]
  rfl

/-- The texts that the targets of the blocks took are the values that were read. -/
theorem texts_eq_map_valueAt {blocks : List Block} {texts : List Text} {input rest : Text}
    {values : List (Option Text)} (hlock : Lockstep patterns input blocks texts rest)
    (hbounded : ∀ b ∈ blocks, ∃ i : Nat, b.target = i ∧ i < values.length)
    (hvalues : ∀ i v, values[i]? = some v →
      capturedTexts (capturesFrom patterns 0 blocks texts) i = v.toList) :
    texts = blocks.map fun b => valueAt (values.map (·.getD [])) b.target := by
  refine hlock.texts_eq_map 0 (fun c hc => ?_) fun b hb hp => ?_
  · obtain ⟨-, b, hb, heq⟩ := of_mem_capturesFrom hc
    obtain ⟨i, hi, hlt⟩ := hbounded b hb
    have hv := hvalues i values[i] (List.getElem?_eq_getElem hlt)
    have hmem := value_mem_capturedTexts hc (heq ▸ hi)
    rw [hv, Option.mem_toList] at hmem
    simp [← heq, hi, valueAt_natCast, hlt, hmem]
  · obtain ⟨i, hi, hlt⟩ := hbounded b hb
    have hv := hvalues i values[i] (List.getElem?_eq_getElem hlt)
    have hnone : values[i] = none := by
      cases hw : values[i] with
      | none => rfl
      | some w =>
        have hmem : w ∈ capturedTexts (capturesFrom patterns 0 blocks texts) i := by simp [hv, hw]
        obtain ⟨c, hc, heq⟩ := exists_of_mem_capturedTexts hmem
        obtain ⟨hpatterned, -⟩ := of_mem_capturesFrom hc
        rw [heq, ← hi, hp] at hpatterned
        cases hpatterned
    simp [hi, valueAt_natCast, hlt, hnone]

theorem write_of_read {candidate : Text} {values : List (Option Text)}
    (h : (ofPatterns (compile text targets) patterns).read candidate = .ok values) :
    (compile text targets).write (values.map (·.getD [])) = .ok candidate := by
  obtain ⟨texts, hlock, hlength, hvalues⟩ := read_eq_ok_iff.1 h
  have htexts := texts_eq_map_valueAt hlock
    (fun b hb => hlength ▸ exists_index_of_mem_blocks hb) hvalues
  rw [hlock.eq_weave, htexts]
  exact compile_write text targets _

/-- Writing undoes reading, so different candidates are never read to the same values. -/
theorem write_read (text : Text) (targets : List Text) (patterns : List (Option Pattern))
    (candidate : Text) (values : List (Option Text))
    (h : (ofPatterns (compile text targets) patterns).read candidate = .ok values) :
    (compile text targets).write (values.map (·.getD [])) = .ok candidate ∧
      ∀ other, (ofPatterns (compile text targets) patterns).read other = .ok values →
        other = candidate := by
  have hwrite := write_of_read h
  refine ⟨hwrite, fun other hother => ?_⟩
  exact Except.ok.inj ((write_of_read hother).symm.trans hwrite)

/-- A repeated target without a pattern, one with a pattern, and one that is empty. -/
theorem write_read_repeated :
    (ofPatterns (compile "A-B-A".toList ["A".toList, "B".toList, []])
        [none, some digits.toPattern]).read "-42-".toList = .ok [none, some "42".toList, none] ∧
      (compile "A-B-A".toList ["A".toList, "B".toList, []]).write [[], "42".toList, []] =
        .ok "-42-".toList :=
  have hread : (ofPatterns (compile "A-B-A".toList ["A".toList, "B".toList, []])
      [none, some digits.toPattern]).read "-42-".toList = .ok [none, some "42".toList, none] := by
    cbv
  ⟨hread, (write_read _ _ _ _ _ hread).1⟩

namespace Template

theorem length_referencesTo (t : Template) (i : Int) :
    (t.referencesTo i).length = t.blocks.countP fun b => b.target = i := by
  rw [referencesTo, List.length_filterMap_eq_countP]
  conv_rhs => rw [← List.zipIdx_map_fst 0 t.blocks, List.countP_map]
  congr 1
  funext p
  by_cases hp : p.1.target = i <;> simp [hp]

theorem referencesTo_eq_nil_iff {t : Template} {i : Int} :
    t.referencesTo i = [] ↔ ∀ b ∈ t.blocks, b.target ≠ i := by
  rw [← List.length_eq_zero_iff, length_referencesTo, List.countP_eq_zero]
  simp

/-- The part of a template behind the reference of the block at a position. -/
def after (t : Template) (k : Nat) : Template := { t with blocks := t.blocks.drop (k + 1) }

/-- What is read if each target that is referred to has its value. -/
def readBack (t : Template) (values : List Text) : List (Option Text) :=
  (List.range t.targets.length).map fun i : Nat =>
    if t.referencesTo i = [] then none else some ((values[i]?).getD [])

theorem write_after (k : Nat) (values : List Text) :
    ((compile text targets).after k).write values =
      .ok (weave (compile text targets).final ((compile text targets).blocks.drop (k + 1))
        (((compile text targets).blocks.drop (k + 1)).map fun b => valueAt values b.target)) :=
  write_eq_weave (fun b hb => nonneg_of_mem_blocks b (List.mem_of_mem_drop hb)) values

theorem length_readBack (t : Template) (values : List Text) :
    (t.readBack values).length = t.targets.length := by
  rw [readBack, List.length_map, List.length_range]

theorem getElem?_readBack {t : Template} {values : List Text} {i : Nat} {v : Option Text}
    (h : (t.readBack values)[i]? = some v) :
    v = if t.referencesTo i = [] then none else some (valueAt values i) := by
  rw [readBack, List.getElem?_map] at h
  obtain ⟨j, hj, rfl⟩ := Option.map_eq_some_iff.1 h
  obtain ⟨hlt, rfl⟩ := List.getElem?_eq_some_iff.1 hj
  rw [List.getElem_range]
  rfl

theorem getElem?_readBack_of_lt {t : Template} {i : Nat} (h : i < t.targets.length)
    (values : List Text) :
    (t.readBack values)[i]? = some (if t.referencesTo i = [] then none else some (valueAt values i)) := by
  have hget := List.getElem?_eq_getElem ((length_readBack t values).symm ▸ h)
  rw [hget, getElem?_readBack hget]

theorem valueAt_readBack {t : Template} {b : Block} (hb : b ∈ t.blocks)
    (hbounded : ∃ i : Nat, b.target = i ∧ i < t.targets.length) (values : List Text) :
    valueAt ((t.readBack values).map (·.getD [])) b.target = valueAt values b.target := by
  obtain ⟨i, hi, hlt⟩ := hbounded
  have hreferred : t.referencesTo i ≠ [] := fun hnil => referencesTo_eq_nil_iff.1 hnil b hb hi
  rw [hi, valueAt_natCast, List.getElem?_map, getElem?_readBack_of_lt hlt, if_neg hreferred]
  rfl

end Template

/-- If all targets that are referred to have patterns, and each is referred to once, then reading
gives the values back exactly if the blocks take the candidate apart into them. -/
theorem read_eq_readBack_iff {r : Reader} {values : List Text} {candidate : Text}
    (hbounded : ∀ b ∈ r.template.blocks, ∃ i : Nat, b.target = i ∧ i < r.template.targets.length)
    (hpatterned : ∀ b ∈ r.template.blocks, patterned r.patterns b.target = true)
    (honce : ∀ i : Nat, i < r.template.targets.length → (r.template.referencesTo i).length ≤ 1) :
    r.read candidate = .ok (r.template.readBack values) ↔
      Lockstep r.patterns candidate r.template.blocks
        (r.template.blocks.map fun b => valueAt values b.target) r.template.final := by
  have hlength := length_readBack r.template values
  rw [read_eq_ok_iff]
  constructor
  · rintro ⟨texts, hlock, -, hvalues⟩
    have htexts := texts_eq_map_valueAt hlock (fun b hb => hlength.symm ▸ hbounded b hb) hvalues
    have hback : texts = r.template.blocks.map fun b => valueAt values b.target :=
      htexts.trans (List.map_congr_left fun b hb => valueAt_readBack hb (hbounded b hb) values)
    exact hback ▸ hlock
  · intro hlock
    refine ⟨_, hlock, hlength, fun i v hv => ?_⟩
    rw [getElem?_readBack hv, capturedTexts_map hpatterned, ← length_referencesTo]
    cases hrefs : r.template.referencesTo i with
    | nil => rfl
    | cons k rest =>
      obtain ⟨hlt, -⟩ := List.getElem?_eq_some_iff.1 hv
      have hle := honce i (hlength ▸ hlt)
      obtain rfl : rest = [] := by simpa [hrefs] using hle
      rfl

/-- Reading what was written gives back the values of the targets that are referred to, each of them
once and with a pattern, exactly if at each block the pattern matches the value, no less and no more
of it, in front of what is written behind it. -/
theorem read_write_iff (text : Text) (targets : List Text) (patterns : List (Option Pattern))
    (values : List Text)
    (honce : ∀ i : Nat, i < targets.length → ((compile text targets).referencesTo i).length ≤ 1)
    (hpatterned : ∀ i : Nat, i < targets.length → (compile text targets).referencesTo i ≠ [] →
      ∃ p, patterns[i]? = some (some p)) :
    ∃ written, (compile text targets).write values = .ok written ∧
      ((ofPatterns (compile text targets) patterns).read written =
          .ok ((compile text targets).readBack values) ↔
        ∀ (k : Nat) (b : Block) (i : Nat) (p : Pattern),
          (compile text targets).blocks[k]? = some b → b.target = i →
          patterns[i]? = some (some p) →
          ∃ suffix, ((compile text targets).after k).write values = .ok suffix ∧
            p.matched ((values[i]?).getD [] ++ suffix) = some ((values[i]?).getD [])) := by
  have hpattern : ∀ b ∈ (compile text targets).blocks, ∀ i : Nat, b.target = i →
      ∃ p, patterns[i]? = some (some p) := by
    intro b hb i hi
    obtain ⟨j, hj, hlt⟩ := exists_index_of_mem_blocks hb
    obtain rfl : j = i := by omega
    exact hpatterned j hlt fun hnil => referencesTo_eq_nil_iff.1 hnil b hb hi
  have hall : ∀ b ∈ (compile text targets).blocks,
      patterned (ofPatterns (compile text targets) patterns).patterns b.target = true := by
    intro b hb
    obtain ⟨i, hi, hlt⟩ := exists_index_of_mem_blocks hb
    obtain ⟨p, hp⟩ := hpattern b hb i hi
    rw [patterned, hi, getSigned_ofPatterns hlt, hp]
    rfl
  -- what is written is woven from the values, so both sides speak of the same texts block by block
  refine ⟨_, write_eq_weave nonneg_of_mem_blocks values, ?_⟩
  refine (read_eq_readBack_iff (r := ofPatterns (compile text targets) patterns)
    (fun b hb => exists_index_of_mem_blocks hb) hall honce).trans ?_
  refine lockstep_weave_map_iff.trans ?_
  constructor
  · intro h k b i p hb hi hp
    refine ⟨_, write_after k values, ?_⟩
    have htaken := h k b hb
    rwa [taken_ofPatterns (List.mem_of_getElem? hb) hi hp, hi] at htaken
  · intro h k b hb
    have hmem := List.mem_of_getElem? hb
    obtain ⟨i, hi, -⟩ := exists_index_of_mem_blocks hmem
    obtain ⟨p, hp⟩ := hpattern b hmem i hi
    obtain ⟨suffix, hsuffix, hmatched⟩ := h k b i p hb hi hp
    obtain rfl := Except.ok.inj ((write_after k values).symm.trans hsuffix)
    rw [taken_ofPatterns hmem hi hp, hi]
    exact hmatched

/-- Two values that their patterns find in front of static text. -/
theorem read_write_iff_separated :
    (∀ i : Nat, i < 2 →
        ((compile "a=A;b=B".toList ["A".toList, "B".toList]).referencesTo i).length ≤ 1) ∧
      (∀ i : Nat, i < 2 →
        (compile "a=A;b=B".toList ["A".toList, "B".toList]).referencesTo i ≠ [] →
          ∃ p, [some digits.toPattern, some digits.toPattern][i]? = some (some p)) ∧
      ∃ written, (compile "a=A;b=B".toList ["A".toList, "B".toList]).write
          ["1".toList, "22".toList] = .ok written ∧
        (ofPatterns (compile "a=A;b=B".toList ["A".toList, "B".toList])
          [some digits.toPattern, some digits.toPattern]).read written =
            .ok [some "1".toList, some "22".toList] := by
  have hcompile : compile "a=A;b=B".toList ["A".toList, "B".toList] =
      ⟨[⟨"a=".toList, 0⟩, ⟨";b=".toList, 1⟩], [], ["A".toList, "B".toList]⟩ := by cbv
  have honce : ∀ i : Nat, i < 2 →
      ((compile "a=A;b=B".toList ["A".toList, "B".toList]).referencesTo i).length ≤ 1 := by
    rw [hcompile]
    decide
  have hpatterned : ∀ i : Nat, i < 2 →
      (compile "a=A;b=B".toList ["A".toList, "B".toList]).referencesTo i ≠ [] →
        ∃ p, [some digits.toPattern, some digits.toPattern][i]? = some (some p) := by
    intro i hi _
    rcases i with - | - | i
    · exact ⟨digits.toPattern, rfl⟩
    · exact ⟨digits.toPattern, rfl⟩
    · omega
  obtain ⟨written, hwritten, hiff⟩ := read_write_iff "a=A;b=B".toList ["A".toList, "B".toList]
    [some digits.toPattern, some digits.toPattern] ["1".toList, "22".toList] honce hpatterned
  have hback : (compile "a=A;b=B".toList ["A".toList, "B".toList]).readBack
      ["1".toList, "22".toList] = [some "1".toList, some "22".toList] := by cbv
  refine ⟨honce, hpatterned, written, hwritten, hback ▸ hiff.2 fun k b i p hb hi hp => ?_⟩
  rw [hcompile] at hb
  rcases k with - | - | k
  · obtain rfl := Option.some.inj hb
    obtain rfl : 0 = i := Int.ofNat_inj.1 hi
    obtain rfl := Option.some.inj (Option.some.inj hp)
    exact ⟨";b=22".toList, by cbv, by cbv⟩
  · obtain rfl := Option.some.inj hb
    obtain rfl : 1 = i := Int.ofNat_inj.1 hi
    obtain rfl := Option.some.inj (Option.some.inj hp)
    exact ⟨[], by cbv, by cbv⟩
  · simp at hb

end Stencil
