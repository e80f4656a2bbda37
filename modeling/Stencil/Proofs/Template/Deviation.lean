import Stencil.Proofs.Template.Failure
import Stencil.Proofs.Template.RoundTrip

/-! # The first deviation

A candidate that does not follow its template is refused with its first deviation.  The blocks in
front of it take a beginning of the candidate apart, and the offset is the length of that beginning,
with the static text of the block if only its pattern fails.
-/
namespace Stencil
open Template

namespace Reader
variable {patterns : List (Option Pattern)} {final : Text}

/-- How the pass stops at the first of the blocks, in front of what remains of the candidate. -/
inductive Stops (patterns : List (Option Pattern)) (final : Text) (position offset : Nat) :
    Text → List Block → Deviation → Prop
  | static {b : Block} {blocks : List Block} {rest : Text}
      (hstatic : rest.take b.static.length ≠ b.static) :
      Stops patterns final position offset rest (b :: blocks)
        ⟨b.static, rest.take b.static.length, position, offset, false, false⟩
  | pattern {b : Block} {blocks : List Block} {rest : Text} {p : Pattern}
      (hp : getSigned? patterns b.target = some (some p)) (hnone : p.matchLength rest = none) :
      Stops patterns final position offset (b.static ++ rest) (b :: blocks)
        ⟨p.source, rest, position, (offset + b.static.length : Nat), true, false⟩
  | final {rest : Text} (hfinal : rest ≠ final) :
      Stops patterns final position offset rest [] ⟨final, rest, position, offset, false, true⟩

/-- At a block the pass stops, or goes on behind what the target takes. -/
theorem readBlocks_cons_eq_deviation_iff {position offset : Nat} {input : Text} {b : Block}
    {blocks : List Block} {d : Deviation} :
    readBlocks patterns final position offset input (b :: blocks) = .error (.deviation d) ↔
      Stops patterns final position offset input (b :: blocks) d ∨
        ∃ w rest, input = b.static ++ (w ++ rest) ∧ taken patterns b.target (w ++ rest) = some w ∧
          readBlocks patterns final (position + 1) (offset + b.static.length + w.length) rest blocks =
            .error (.deviation d) := by
  constructor
  · intro h
    by_cases hstatic : input.take b.static.length = b.static
    · obtain ⟨rest, rfl⟩ : b.static <+: input := hstatic ▸ List.take_prefix _ _
      cases htaken : taken patterns b.target rest with
      | some w =>
        obtain ⟨rest, rfl⟩ : ∃ rest', rest = w ++ rest' := ⟨_, taken_eq_append htaken⟩
        rw [readBlocks_of_taken htaken, map_eq_error_iff] at h
        exact .inr ⟨w, rest, rfl, htaken, h⟩
      | none =>
        rw [readBlocks, List.take_left, if_pos rfl, List.drop_left] at h
        rw [taken] at htaken
        cases hp : getSigned? patterns b.target with
        | none => simp [hp] at h
        | some p =>
          cases p with
          | none => simp [hp] at htaken
          | some p =>
            have hnone : p.matchLength rest = none := by simpa [hp, Pattern.matched] using htaken
            simp only [hp, hnone, Except.error.injEq, BlockFailure.deviation.injEq] at h
            exact .inl (h ▸ .pattern hp hnone)
    · simp only [readBlocks, hstatic, if_false, Except.error.injEq, BlockFailure.deviation.injEq] at h
      exact .inl (h ▸ .static hstatic)
  · rintro (hstops | ⟨w, rest, rfl, htaken, htail⟩)
    · cases hstops with
      | static hstatic => simp [readBlocks, hstatic]
      | pattern hp hnone => simp [readBlocks, hp, hnone]
    · rw [readBlocks_of_taken htaken, htail]
      rfl

/-- The pass over the blocks ends at a deviation exactly if it stops there behind blocks that it has
read over. -/
theorem readBlocks_eq_deviation_iff {position offset : Nat} {input : Text} {blocks : List Block}
    {d : Deviation} :
    readBlocks patterns final position offset input blocks = .error (.deviation d) ↔
      ∃ before behind texts rest, blocks = before ++ behind ∧
        Lockstep patterns input before texts rest ∧
          Stops patterns final (position + before.length) (offset + (weave [] before texts).length)
            rest behind d := by
  induction blocks generalizing position offset input with
  | nil =>
    constructor
    · intro h
      by_cases hfinal : input = final
      · simp [readBlocks, hfinal] at h
      · simp only [readBlocks, hfinal, if_false, Except.error.injEq,
          BlockFailure.deviation.injEq] at h
        exact ⟨[], [], [], input, rfl, .nil input, h ▸ .final hfinal⟩
    · rintro ⟨before, behind, texts, rest, hblocks, hlock, hstops⟩
      obtain ⟨rfl, rfl⟩ := List.append_eq_nil_iff.1 hblocks.symm
      cases hlock
      cases hstops with
      | final hfinal => simp [readBlocks, hfinal, weave]
  | cons b blocks ih =>
    rw [readBlocks_cons_eq_deviation_iff]
    constructor
    · rintro (hstops | ⟨w, rest, rfl, htaken, htail⟩)
      · exact ⟨[], b :: blocks, [], input, rfl, .nil input, hstops⟩
      · obtain ⟨before, behind, texts, rest', rfl, hlock, hstops⟩ := ih.1 htail
        refine ⟨b :: before, behind, w :: texts, rest', rfl, .cons htaken hlock, ?_⟩
        simpa [weave, Nat.add_assoc, Nat.add_comm 1] using hstops
    · rintro ⟨before, behind, texts, rest, hblocks, hlock, hstops⟩
      cases hlock with
      | nil =>
        rw [List.nil_append] at hblocks
        exact .inl (by simpa [weave, ← hblocks] using hstops)
      | @cons _ before w texts input rest htaken hlock =>
        obtain ⟨rfl, rfl⟩ := List.cons.inj hblocks
        refine .inr ⟨w, input, rfl, htaken, ih.2 ⟨before, behind, texts, rest, rfl, hlock, ?_⟩⟩
        simpa [weave, Nat.add_assoc, Nat.add_comm 1] using hstops

end Reader

/-- The static text of the block at a position; behind the last block it is the final text. -/
def Template.staticAt (t : Template) (position : Nat) : Text :=
  (t.blocks[position]?).elim t.final (·.static)

/-- The first place where a candidate deviates from a template: at the block with the given position
and at the given offset, behind blocks whose targets took `texts`. -/
structure FirstDeviation (r : Reader) (candidate : Text) (position offset : Nat) (texts : List Text)
    (d : Deviation) : Prop where
  position_eq : d.position = position
  offset_eq : d.offset = offset
  position_le : position ≤ r.template.blocks.length
  offset_le : offset ≤ candidate.length
  lockstep : ∃ rest,
    Reader.Lockstep r.patterns candidate (r.template.blocks.take position) texts rest
  consumed : candidate.take offset =
    weave (if d.isPattern then r.template.staticAt position else [])
      (r.template.blocks.take position) texts
  not_pattern_atEnd : ¬(d.isPattern = true ∧ d.atEnd = true)
  atEnd_iff : d.atEnd = true ↔ position = r.template.blocks.length
  of_static : d.isPattern = false → d.atEnd = false →
    d.expected = r.template.staticAt position ∧
      d.actual = (candidate.drop offset).take d.expected.length ∧ d.actual ≠ d.expected
  of_pattern : d.isPattern = true → ∃ b p, r.template.blocks[position]? = some b ∧
    getSigned? r.patterns b.target = some (some p) ∧ d.expected = p.source ∧
      d.actual = candidate.drop offset ∧ p.matchLength d.actual = none
  of_atEnd : d.atEnd = true →
    d.expected = r.template.final ∧ d.actual = candidate.drop offset ∧ d.actual ≠ d.expected

namespace Reader
variable {r : Reader} {candidate : Text} {d : Deviation}

theorem Lockstep.eq_append {patterns : List (Option Pattern)} {input rest : Text}
    {blocks : List Block} {texts : List Text} (h : Lockstep patterns input blocks texts rest) :
    input = weave [] blocks texts ++ rest :=
  h.eq_weave.trans (weave_eq_append rest blocks texts)

theorem firstDeviation_of_stops {before behind : List Block} {texts : List Text} {rest : Text}
    (hblocks : r.template.blocks = before ++ behind)
    (hlock : Lockstep r.patterns candidate before texts rest)
    (hstops : Stops r.patterns r.template.final before.length (weave [] before texts).length rest
      behind d) : ∃ offset, FirstDeviation r candidate before.length offset texts d := by
  have hinput := hlock.eq_append
  have htake : r.template.blocks.take before.length = before := by rw [hblocks, List.take_left]
  have hat : r.template.blocks[before.length]? = behind.head? := by
    rw [hblocks, List.getElem?_append_right (Nat.le_refl _), Nat.sub_self, List.head?_eq_getElem?]
  have hbefore : Lockstep r.patterns candidate (r.template.blocks.take before.length) texts rest := by
    rwa [htake]
  cases hstops with
  | @static b blocks _ hstatic =>
    refine ⟨_, rfl, rfl, by simp [hblocks], by simp [hinput], ⟨rest, hbefore⟩, ?_, by simp,
      by simp [hblocks], fun _ _ => ?_, nofun, nofun⟩
    · simp [hinput, htake]
    · simp [staticAt, hat, hinput, hstatic]
  | @pattern b blocks rest p hp hnone =>
    refine ⟨_, rfl, rfl, by simp [hblocks], by simp [hinput], ⟨_, hbefore⟩, ?_, by simp,
      by simp [hblocks], nofun, fun _ => ⟨b, p, hat, hp, rfl, ?_, hnone⟩, nofun⟩
    · simp [hinput, htake, staticAt, hat, weave_eq_append b.static, ← List.append_assoc]
    · simp [hinput, ← List.drop_drop]
  | final hfinal =>
    refine ⟨_, rfl, rfl, by simp [hblocks], by simp [hinput], ⟨rest, hbefore⟩, ?_, by simp,
      by simp [hblocks], nofun, nofun, fun _ => ⟨rfl, ?_, hfinal⟩⟩
    · simp [hinput, htake]
    · simp [hinput]

theorem eq_length_of_take_eq {text beginning : Text} {n : Nat} (hle : n ≤ text.length)
    (h : text.take n = beginning) : n = beginning.length := by
  rw [← h, List.length_take, Nat.min_eq_left hle]

/-- At a first deviation the pass stops. -/
theorem stops_of_firstDeviation {position offset : Nat} {texts : List Text}
    (h : FirstDeviation r candidate position offset texts d) :
    ∃ rest, Lockstep r.patterns candidate (r.template.blocks.take position) texts rest ∧
      Stops r.patterns r.template.final position
        (weave [] (r.template.blocks.take position) texts).length rest
        (r.template.blocks.drop position) d := by
  obtain ⟨expected, actual, _, _, isPattern, atEnd⟩ := d
  obtain ⟨rfl, rfl, hposition, hoffset, ⟨rest, hlock⟩, hconsumed, hboth, hatEnd, hstatic, hpattern, hend⟩ := h
  refine ⟨rest, hlock, ?_⟩
  obtain rfl := hlock.eq_append
  dsimp only at hconsumed hboth hatEnd hstatic hpattern hend
  cases atEnd with
  | true =>
    obtain rfl : isPattern = false := by simpa using hboth
    obtain ⟨rfl, rfl, hne⟩ := hend rfl
    have hlength : offset = (weave [] (r.template.blocks.take position) texts).length :=
      eq_length_of_take_eq hoffset hconsumed
    rw [hlength, List.drop_left] at hne ⊢
    rw [List.drop_eq_nil_of_le (Nat.le_of_eq (hatEnd.1 rfl).symm)]
    exact .final hne
  | false =>
    have hlt : position < r.template.blocks.length :=
      Nat.lt_of_le_of_ne hposition fun h => Bool.false_ne_true (hatEnd.2 h)
    have hat := List.getElem?_eq_getElem hlt
    rw [List.drop_eq_getElem_cons hlt]
    cases isPattern with
    | false =>
      obtain ⟨rfl, rfl, hne⟩ := hstatic rfl rfl
      have hlength : offset = (weave [] (r.template.blocks.take position) texts).length :=
        eq_length_of_take_eq hoffset hconsumed
      rw [hlength, List.drop_left, staticAt, hat] at hne ⊢
      exact .static hne
    | true =>
      obtain ⟨b, p, hb, hp, rfl, rfl, hnone⟩ := hpattern rfl
      obtain rfl : r.template.blocks[position] = b := Option.some.inj (hat.symm.trans hb)
      rw [if_pos rfl, staticAt, hat, Option.elim_some,
        weave_eq_append r.template.blocks[position].static] at hconsumed
      have hlength := eq_length_of_take_eq hoffset hconsumed
      rw [List.length_append] at hlength
      have hstatic : r.template.blocks[position].static <+: rest := by
        rw [hlength, List.take_length_add_append, List.append_cancel_left_eq] at hconsumed
        exact hconsumed ▸ List.take_prefix _ _
      obtain ⟨behind, rfl⟩ := hstatic
      rw [hlength, List.drop_length_add_append, List.drop_left] at hnone ⊢
      exact .pattern hp hnone

theorem exists_firstDeviation_iff :
    (∃ position offset texts, FirstDeviation r candidate position offset texts d) ↔
      readBlocks r.patterns r.template.final 0 0 candidate r.template.blocks =
        .error (.deviation d) := by
  rw [readBlocks_eq_deviation_iff]
  simp only [Nat.zero_add]
  constructor
  · rintro ⟨position, offset, texts, h⟩
    obtain ⟨rest, hlock, hstops⟩ := stops_of_firstDeviation h
    refine ⟨_, _, texts, rest, (List.take_append_drop position _).symm, hlock, ?_⟩
    rwa [List.length_take, Nat.min_eq_left h.position_le]
  · rintro ⟨before, behind, texts, rest, hblocks, hlock, hstops⟩
    obtain ⟨offset, h⟩ := firstDeviation_of_stops hblocks hlock hstops
    exact ⟨before.length, offset, texts, h⟩

section Source
variable {source : Text} (hsource : r.template.source = .ok source)
include hsource

theorem read_eq_badFormat_iff {s : Option Surroundings} :
    r.read candidate = .error (.error ⟨.badFormat d, s⟩) ↔
      readBlocks r.patterns r.template.final 0 0 candidate r.template.blocks =
          .error (.deviation d) ∧ s = some (.ofRead source candidate) := by
  rw [read]
  cases hblocks : readBlocks r.patterns r.template.final 0 0 candidate r.template.blocks with
  | ok captures =>
    simp only [mapError_eq_error_iff, report_of_source hsource]
    simp
  | error failure =>
    cases failure with
    | deviation d' => simp [report_of_source hsource, eq_comm]
    | dangling => simp

/-- If the targets of all blocks are there, a candidate that the blocks do not take apart is refused
with a deviation. -/
theorem exists_badFormat_iff (htargets : ∀ b ∈ r.template.blocks, getSigned? r.patterns b.target ≠ none) :
    (∃ d s, r.read candidate = .error (.error ⟨.badFormat d, s⟩)) ↔
      ¬∃ texts, Lockstep r.patterns candidate r.template.blocks texts r.template.final := by
  simp only [read_eq_badFormat_iff hsource]
  constructor
  · rintro ⟨d, s, hblocks, -⟩ ⟨texts, hlock⟩
    rw [readBlocks_eq_ok_iff.2 ⟨texts, hlock, rfl⟩] at hblocks
    cases hblocks
  · intro hnone
    cases hblocks : readBlocks r.patterns r.template.final 0 0 candidate r.template.blocks with
    | ok captures =>
      obtain ⟨texts, hlock, -⟩ := readBlocks_eq_ok_iff.1 hblocks
      exact absurd ⟨texts, hlock⟩ hnone
    | error failure =>
      cases failure with
      | deviation d => exact ⟨d, _, rfl, rfl⟩
      | dangling => exact absurd hblocks (readBlocks_ne_dangling htargets 0 0 candidate)

end Source

/-- A candidate that the blocks and the final text do not take apart is refused, with its first
deviation and with the template and the candidate beside it. -/
theorem badFormat_iff_firstDeviation (text : Text) (targets : List Text)
    (patterns : List (Option Pattern)) (candidate : Text) :
    (∀ d s, (ofPatterns (compile text targets) patterns).read candidate =
        .error (.error ⟨.badFormat d, s⟩) ↔
      (∃ position offset texts,
        FirstDeviation (ofPatterns (compile text targets) patterns) candidate position offset texts d) ∧
          s = some (.ofRead text candidate)) ∧
    ((∃ d s, (ofPatterns (compile text targets) patterns).read candidate =
        .error (.error ⟨.badFormat d, s⟩)) ↔
      ¬∃ texts, Lockstep (ofPatterns (compile text targets) patterns).patterns candidate
        (compile text targets).blocks texts (compile text targets).final) := by
  have hsource := source_ofPatterns text targets patterns
  refine ⟨fun d s => ?_, exists_badFormat_iff hsource fun b hb => getSigned_ofPatterns_ne_none hb⟩
  rw [exists_firstDeviation_iff]
  exact read_eq_badFormat_iff hsource

end Reader
end Stencil
