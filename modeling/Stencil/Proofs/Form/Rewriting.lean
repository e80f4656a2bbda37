import Stencil.Proofs.Form.Distinct
import Stencil.Proofs.Form.RoundTrip
import Stencil.Proofs.Format.Padded
import Stencil.Proofs.Template.Repetition

/-! # Writing again what was read

A form of integers that are padded at most in front reads many spellings of one integer: with zeros or
padding of any width in front, with capital letters, with a sign before a zero.  Written again each
integer has one spelling, and the form reads it back.  That the new spellings end where they should is
seen from the old ones: a numeral is read as far as it goes, so no digit stands behind it.
-/
namespace Stencil

namespace Format
open Regex (Tree)
open Regex.Parse (oneOf holds_oneOf_iff)
open Kind Numeral

/-- Integers with padding in front or without any, of a width that can be padded to. -/
inductive FrontPadded : Format → Prop
  | integer {a : Alignment} {base : Nat} (hkind : a.kind = .none ∨ a.kind = .right)
    (hwidth : a.width < Alignment.widthLimit) : FrontPadded ⟨a, .integer base⟩

theorem FrontPadded.numeric {f : Format} (h : f.FrontPadded) : f.Numeric := by
  cases h
  trivial

section Matched
variable {a : Alignment} {base : Nat} {r : Regex} {u rest : Text}
  (h : Accepted ⟨a, .integer base⟩) (hr : pattern ⟨a, .integer base⟩ = .ok r)
  (hu : r.toPattern.matched (u ++ rest) = some u)
include h hr hu

/-- No digit stands behind a numeral that was matched and has no padding behind it. -/
theorem notMem_digitChars_of_matched (hend : a.kind.padsEnd = false) :
    ∀ c ∈ rest.head?, c ∉ digitChars base := by
  obtain ⟨h2, h36⟩ := h.inRange
  obtain rfl := Except.ok.inj ((pattern_eq (readsTrees_integer h2 h36)).symm.trans hr)
  have htakes := Regex.takes_of_matchLength (isPlain_integerPattern a base)
    (Pattern.eq_append_of_matched hu).1
  have hbehind : a.behind = [] := by
    rw [Alignment.behind, hend]
    rfl
  have htrees : a.before ++ integerTrees base ++ a.behind =
      (a.before ++ [signTree]) ++ [.chars (oneOf (digitChars base)) 1 none .greedy] := by
    simp [hbehind, integerTrees]
  dsimp only at htakes
  rw [htrees] at htakes
  intro c hc hdigit
  have hstops := htakes.stops c hc
  rw [holds_oneOf_iff.2 hdigit] at hstops
  cases hstops

/-- What is read from a matched text is an integer, and it is read from its own padded numeral too. -/
theorem read_padded_of_matched {x : Value} (hx : read ⟨a, .integer base⟩ u = .ok x) :
    ∃ v, x = .int v ∧ read ⟨a, .integer base⟩ (a.padded (numeral base v)) = .ok (.int v) := by
  obtain ⟨h2, h36⟩ := h.inRange
  obtain ⟨m, w, n, htake, hm, hn, hw⟩ := describes_of_captured (readsTrees_integer h2 h36)
    isPlain_integerTrees hr (Pattern.eq_append_of_matched hu).1
  have hnumeral := isNumeral_unpad h (describes_integerTrees_iff.1 hw) hm hn
  rw [← htake, List.take_left] at hnumeral
  obtain ⟨v, hv, rfl⟩ := map_eq_ok_iff.1 hx
  exact ⟨v, rfl, read_padded_of_read_numeral h (hnumeral.read_numeral h2 h36 (mapError_eq_ok_iff.1 hv))⟩

end Matched
end Format

namespace Template

/-- Static text stands between the references. -/
def Spaced (t : Template) : Prop :=
  ∀ (k : Nat) (b : Block), t.blocks[k + 1]? = some b → b.static ≠ []

theorem Spaced.following_ne_nil {t : Template} (h : t.Spaced) {k : Nat}
    (hk : k + 1 < t.blocks.length) : t.following k ≠ [] := by
  rw [following, List.getElem?_eq_getElem hk]
  exact h k _ (List.getElem?_eq_getElem hk)

end Template

namespace Form
open Template Reader
open Format (FrontPadded exists_pattern_of_numeric)

/-- No minus sign stands behind a target that is padded with zeros. -/
def Unsigned (t : Template) (formats : List (Text × Format)) : Prop :=
  ∀ (k : Nat) (b : Block) (i : Nat) (d : Text × Format), t.blocks[k]? = some b → b.target = i →
    formats[i]? = some d → d.2.alignment.kind = .right → d.2.alignment.fill = '0' →
      (t.following k).head? ≠ some '-'

/-- The values that were read, by the names of their targets. -/
def given (values : List (Text × Option Value)) : List (Value × Value) :=
  values.filterMap fun (name, v) => v.map (.text name, ·)

section Given
variable {name : Text} {v : Option Value} {values : List (Text × Option Value)}

theorem field?_given_cons (e : Text × Option Value) (n : Text) :
    Value.field? (given (e :: values)) n =
      if e.1 = n then e.2.or (Value.field? (given values) n) else Value.field? (given values) n := by
  obtain ⟨name, v⟩ := e
  cases v with
  | none => simp [given]
  | some x => by_cases hn : name = n <;> simp [given, Value.field?, hn]

theorem field?_given_eq_none (h : name ∉ values.map (·.1)) : Value.field? (given values) name = none := by
  induction values with
  | nil => rfl
  | cons e values ih =>
    rw [List.map_cons, List.mem_cons, not_or] at h
    rw [field?_given_cons, if_neg (Ne.symm h.1), ih h.2]

/-- Each target has the value that was read for it. -/
theorem field?_given (hnodup : (values.map (·.1)).Nodup) (h : (name, v) ∈ values) :
    Value.field? (given values) name = v := by
  induction values with
  | nil => cases h
  | cons e values ih =>
    rw [List.map_cons, List.nodup_cons] at hnodup
    rw [field?_given_cons]
    rcases List.mem_cons.1 h with rfl | h
    · rw [if_pos rfl, field?_given_eq_none hnodup.1, Option.or_none]
    · have hne : e.1 ≠ name := fun heq => hnodup.1 (List.mem_map.2 ⟨_, h, heq.symm⟩)
      rw [if_neg hne, ih hnodup.2 h]

/-- Only targets are given values. -/
theorem targets_of_given {formats : List (Text × Format)} (h : values.map (·.1) = formats.map (·.1)) :
    ∀ e ∈ given values, ∃ d ∈ formats, e.1 = .text d.1 := by
  intro e he
  obtain ⟨⟨name, v⟩, hmem, hv⟩ := List.mem_filterMap.1 he
  obtain ⟨x, -, rfl⟩ := Option.map_eq_some_iff.1 hv
  have hname : name ∈ formats.map (·.1) := h ▸ List.mem_map_of_mem hmem
  obtain ⟨d, hd, rfl⟩ := List.mem_map.1 hname
  exact ⟨d, hd, rfl⟩

end Given

section Parse
variable {formats : List (Text × Format)} {captured captured' : List (Option Text)}
  {values : List (Text × Option Value)}

/-- The values come with the names of the targets. -/
theorem names_of_parse (hlength : captured.length = formats.length)
    (h : parse formats captured = .ok values) : values.map (·.1) = formats.map (·.1) := by
  induction formats generalizing captured values with
  | nil =>
    obtain rfl : [] = values := by simpa [parse] using h
    rfl
  | cons d formats ih =>
    obtain ⟨w, captured, rfl⟩ := List.exists_cons_of_length_eq_add_one hlength
    obtain ⟨v, rest, -, hrest, rfl⟩ := parse_cons_eq_ok_iff.1 h
    rw [List.map_cons, List.map_cons, ih (Nat.succ.inj hlength) hrest]

theorem getElem?_of_parse (h : parse formats captured = .ok values) {i : Nat} {d : Text × Format}
    {w : Option Text} (hd : formats[i]? = some d) (hw : captured[i]? = some w) :
    ∃ v, w.elim (.ok none) (fun t => (d.2.read t).map some) = .ok v ∧
      values[i]? = some (d.1, v) := by
  induction formats generalizing captured values i with
  | nil => simp at hd
  | cons e formats ih =>
    cases captured with
    | nil => simp at hw
    | cons u captured =>
      obtain ⟨v, rest, hv, hrest, rfl⟩ := parse_cons_eq_ok_iff.1 h
      cases i with
      | zero =>
        obtain rfl : e = d := by simpa using hd
        obtain rfl : u = w := by simpa using hw
        exact ⟨v, hv, rfl⟩
      | succ i => exact ih hrest (by simpa using hd) (by simpa using hw)

/-- Captured texts that are read alike are parsed alike. -/
theorem parse_of_alike (hlength : captured'.length = captured.length)
    (h : ∀ (i : Nat) (d : Text × Format) (w w' : Option Text), formats[i]? = some d →
      captured[i]? = some w → captured'[i]? = some w' →
        w'.elim (.ok none) (fun t => (d.2.read t).map some) =
          w.elim (.ok none) (fun t => (d.2.read t).map some))
    (hparse : parse formats captured = .ok values) : parse formats captured' = .ok values := by
  induction formats generalizing captured captured' values with
  | nil => simpa [parse] using hparse
  | cons d formats ih =>
    cases captured with
    | nil =>
      obtain rfl := List.length_eq_zero_iff.1 hlength
      exact hparse
    | cons w captured =>
      obtain ⟨w', captured', rfl⟩ := List.exists_cons_of_length_eq_add_one hlength
      obtain ⟨v, rest, hv, hrest, rfl⟩ := parse_cons_eq_ok_iff.1 hparse
      have halike := h 0 d w w' rfl rfl rfl
      have hbehind := ih (Nat.succ.inj hlength) (fun i e u u' he hu hu' =>
        h (i + 1) e u u' he hu hu') hrest
      exact parse_cons_eq_ok_iff.2 ⟨v, rest, halike.trans hv, hbehind, rfl⟩

end Parse

section Written
variable {values : List (Value × Value)} {d : Text × Format}

/-- What is written for a target: the text that stands for its value, or nothing if it has none. -/
def Stands (values : List (Value × Value)) (d : Text × Format) (t : Text) : Prop :=
  Value.field? values d.1 = none ∧ t = [] ∨ Represents values d t

theorem Stands.write_eq {t : Text} (h : Stands values d t) :
    (Value.field? values d.1).elim (.ok []) d.2.write = .ok t := by
  rcases h with ⟨hnone, rfl⟩ | ⟨v, hvalue, hwrite, -⟩
  · rw [hnone]
    rfl
  · rwa [hvalue]

theorem Stands.represents {t : Text} {x : Value} (h : Stands values d t)
    (hvalue : Value.field? values d.1 = some x) : Represents values d t := by
  apply h.resolve_left
  rintro ⟨hnone, -⟩
  rw [hvalue] at hnone
  cases hnone

/-- A value that was read from a matched text has a text that stands for it. -/
theorem exists_represents_of_matched (h : d.2.Accepted) (hpadded : d.2.FrontPadded) {r : Regex}
    (hr : d.2.pattern = .ok r) {u rest : Text} (hu : r.toPattern.matched (u ++ rest) = some u)
    {x : Value} (hx : d.2.read u = .ok x) (hvalue : Value.field? values d.1 = some x) :
    ∃ t, Represents values d t := by
  obtain ⟨name, f⟩ := d
  cases hpadded with
  | @integer a base hkind hwidth =>
    obtain ⟨v, rfl, hread⟩ := Format.read_padded_of_matched h hr hu hx
    refine ⟨_, .int v, hvalue, Format.write_integer h hwidth v, hread, fun r' hr' rest' hrest' => ?_⟩
    exact Format.matched_padded_numeral h hr' v hrest'

end Written

section Rewritten
variable {template : Text} {formats : List (Text × Format)} {ps : List (Option Pattern)}
  {ws : List Text} {values : List (Text × Option Value)} {candidate : Text}
  (hps : patterns (distinct formats) = .ok ps)
  (hformats : ∀ d ∈ distinct formats, d.2.Accepted ∧ d.2.FrontPadded)
  (hlock : Lockstep (ofPatterns (blank template formats) ps).patterns candidate
    (blank template formats).blocks
    ((blank template formats).blocks.map fun b => valueAt ws b.target) (blank template formats).final)

include hps in
/-- What is read are the texts that the blocks took, one block for each target that is referred to. -/
theorem taken_of_read {captured : List (Option Text)}
    (h : (ofPatterns (blank template formats) ps).read candidate = .ok captured) :
    (∀ i : Nat, ((blank template formats).referencesTo i).length ≤ 1) ∧
      captured = (blank template formats).readBack (captured.map (·.getD [])) ∧
        Lockstep (ofPatterns (blank template formats) ps).patterns candidate
          (blank template formats).blocks
          ((blank template formats).blocks.map fun b => valueAt (captured.map (·.getD [])) b.target)
          (blank template formats).final :=
  have hbounded : ∀ b ∈ (blank template formats).blocks,
      ∃ i : Nat, b.target = i ∧ i < (blank template formats).targets.length :=
    fun _ hb => exists_index_of_mem_blocks hb
  have hpatterned : ∀ b ∈ (blank template formats).blocks,
      patterned (ofPatterns (blank template formats) ps).patterns b.target = true :=
    fun _ hb => patterned_of_mem_blocks hps hb
  ⟨length_referencesTo_le_one h hbounded hpatterned, eq_readBack_of_read h hbounded hpatterned⟩

include hps hlock in
/-- The pattern of a target matches what a block took, in front of what is behind it. -/
theorem matched_of_lockstep {k : Nat} {b : Block} {i : Nat} {d : Text × Format}
    (hb : (blank template formats).blocks[k]? = some b) (hi : b.target = i)
    (hd : (distinct formats)[i]? = some d) :
    ∃ r, d.2.pattern = .ok r ∧ r.toPattern.matched (valueAt ws i ++
      weave (blank template formats).final ((blank template formats).blocks.drop (k + 1))
        (((blank template formats).blocks.drop (k + 1)).map fun b => valueAt ws b.target)) =
      some (valueAt ws i) := by
  obtain rfl := hlock.eq_weave
  obtain ⟨r, hr, hp⟩ := getElem?_patterns hps hd
  have htaken := lockstep_weave_map_iff.1 hlock k b hb
  rw [hi] at htaken
  refine ⟨r, hr, ?_⟩
  rw [← htaken, ← hi]
  exact (taken_ofPatterns (List.mem_of_getElem? hb) hi hp _).symm

include hps hformats hlock in
/-- If a candidate was read, the static text behind each target ends its numerals. -/
theorem separated_of_lockstep (hspaced : (blank template formats).Spaced)
    (hunsigned : Unsigned (blank template formats) (distinct formats)) :
    Separated (blank template formats) (distinct formats) := by
  intro k b i d hb hi hd
  have hne : k + 1 < (blank template formats).blocks.length →
      (blank template formats).following k ≠ [] := hspaced.following_ne_nil
  refine ⟨hne, fun c hc => ?_⟩
  obtain ⟨r, hr, hmatched⟩ := matched_of_lockstep hps hlock hb hi hd
  obtain ⟨haccepted, hpadded⟩ := hformats d (List.mem_of_getElem? hd)
  have hminus := hunsigned k b i d hb hi hd
  rw [← head?_weave _ k _ hne (List.length_map _)] at hc
  obtain ⟨name, f⟩ := d
  cases hpadded with
  | @integer a base hkind hwidth =>
    have hend : a.kind.padsEnd = false := by rcases hkind with hkind | hkind <;> rw [hkind] <;> rfl
    refine ⟨Format.notMem_digitChars_of_matched haccepted hr hmatched hend c hc, ?_, ?_⟩
    · rw [hend]
      nofun
    · rintro ⟨hkind, hfill⟩ rfl
      rw [head?_weave _ k _ hne (List.length_map _)] at hc
      exact hminus hkind hfill hc

/-- Each target that is referred to has the value that is read from its text, the others have none. -/
theorem value_of_parse
    (hparse : parse (distinct formats) ((blank template formats).readBack ws) = .ok values) {i : Nat}
    {d : Text × Format} (hd : (distinct formats)[i]? = some d) :
    if (blank template formats).referencesTo i = [] then Value.field? (given values) d.1 = none
    else ∃ x, Value.field? (given values) d.1 = some x ∧ d.2.read (valueAt ws i) = .ok x := by
  have htargets := length_targets_blank template formats
  have hlength := (length_readBack (blank template formats) ws).trans htargets
  have hnodup : (values.map (·.1)).Nodup := names_of_parse hlength hparse ▸ nodup_distinct formats
  have hlt : i < (blank template formats).targets.length :=
    htargets ▸ (List.getElem?_eq_some_iff.1 hd).1
  obtain ⟨v, hv, hget⟩ := getElem?_of_parse hparse hd (getElem?_readBack_of_lt hlt ws)
  rw [field?_given hnodup (List.mem_of_getElem? hget)]
  split
  next hrefs =>
    rw [if_pos hrefs] at hv
    exact (Except.ok.inj hv).symm
  next hrefs =>
    rw [if_neg hrefs] at hv
    obtain ⟨x, hx, rfl⟩ := map_eq_ok_iff.1 hv
    exact ⟨x, rfl, hx⟩

include hps hformats hlock in
theorem exists_stands
    (hparse : parse (distinct formats) ((blank template formats).readBack ws) = .ok values)
    {d : Text × Format} (hd : d ∈ distinct formats) : ∃ t, Stands (given values) d t := by
  obtain ⟨i, hi⟩ := List.mem_iff_getElem?.1 hd
  have hvalue := value_of_parse hparse hi
  by_cases hrefs : (blank template formats).referencesTo i = []
  · rw [if_pos hrefs] at hvalue
    exact ⟨[], .inl ⟨hvalue, rfl⟩⟩
  · rw [if_neg hrefs] at hvalue
    obtain ⟨x, hfield, hx⟩ := hvalue
    obtain ⟨b, hb, htarget⟩ : ∃ b ∈ (blank template formats).blocks, b.target = i := by
      by_contra hnone
      exact hrefs (referencesTo_eq_nil_iff.2 fun b hb htarget => hnone ⟨b, hb, htarget⟩)
    obtain ⟨k, hk⟩ := List.mem_iff_getElem?.1 hb
    obtain ⟨r, hr, hmatched⟩ := matched_of_lockstep hps hlock hk htarget hi
    obtain ⟨haccepted, hpadded⟩ := hformats d hd
    obtain ⟨t, ht⟩ := exists_represents_of_matched haccepted hpadded hr hmatched hx hfield
    exact ⟨t, .inr ht⟩

/-- The texts that stand for the values are parsed to the values. -/
theorem parse_rewritten
    (hparse : parse (distinct formats) ((blank template formats).readBack ws) = .ok values)
    {ts : List Text}
    (hall : ∀ (i : Nat) (d : Text × Format), (distinct formats)[i]? = some d →
      (blank template formats).referencesTo i ≠ [] → Represents (given values) d (valueAt ts i)) :
    parse (distinct formats) ((blank template formats).readBack ts) = .ok values := by
  refine parse_of_alike ((length_readBack _ ts).trans (length_readBack _ ws).symm) ?_ hparse
  intro i d w w' hd hw hw'
  have hvalue := value_of_parse hparse hd
  rw [getElem?_readBack hw, getElem?_readBack hw']
  by_cases hrefs : (blank template formats).referencesTo i = []
  · rw [if_pos hrefs, if_pos hrefs]
  · rw [if_neg hrefs] at hvalue
    obtain ⟨x, hfield, hx⟩ := hvalue
    obtain ⟨v, hv, -, hread, -⟩ := hall i d hd hrefs
    obtain rfl : x = v := Option.some.inj (hfield.symm.trans hv)
    rw [if_neg hrefs, if_neg hrefs, Option.elim_some, Option.elim_some, hread, hx]

end Rewritten

/-- If the targets of a form are integers with padding at most in front, static text stands between its
references, and no minus sign behind a target that is padded with zeros, then whatever the form reads it
writes again, and reads back the same values. -/
theorem read_rewritten (template : Text) (formats : List (Text × Format))
    (hformats : ∀ d ∈ distinct formats, d.2.Accepted ∧ d.2.FrontPadded)
    (hspaced : (blank template formats).Spaced)
    (hunsigned : Unsigned (blank template formats) (distinct formats)) :
    ∃ form, build template formats = .ok form ∧
      ∀ text values, form.read text = .ok values →
        ∃ rewritten, form.write (given values) = .ok rewritten ∧
          form.read rewritten = .ok values := by
  obtain ⟨ps, hps⟩ := exists_patterns fun d hd =>
    exists_pattern_of_numeric (hformats d hd).1 (hformats d hd).2.numeric
  refine ⟨_, build_eq_ok_iff.2 ⟨ps, hps, rfl⟩, fun text values hread => ?_⟩
  obtain ⟨captured, hcaptured, hparsed⟩ := bind_eq_ok_iff.1 hread
  obtain ⟨honce, hback, hlock⟩ := taken_of_read hps (mapError_eq_ok_iff.1 hcaptured)
  have hparse := mapError_eq_ok_iff.1 hparsed
  rw [hback] at hparse
  have hseparated := separated_of_lockstep hps hformats hlock hspaced hunsigned
  obtain ⟨ts, hts, hall⟩ := exists_texts_of (fun d t ht => Stands.write_eq ht) fun d hd =>
    exists_stands hps hformats hlock hparse hd
  have hrepresents : ∀ (i : Nat) (d : Text × Format), (distinct formats)[i]? = some d →
      (blank template formats).referencesTo i ≠ [] →
        Represents (given values) d (valueAt ts i) := by
    intro i d hd hrefs
    have hvalue := value_of_parse hparse hd
    rw [if_neg hrefs] at hvalue
    obtain ⟨x, hfield, -⟩ := hvalue
    exact (valueAt_of_forall₂ hall hd).represents hfield
  have hreread := read_filled_of_referenced hps honce hseparated hrepresents
  refine ⟨_, ?_, bind_eq_ok_iff.2 ⟨_, mapError_eq_ok_iff.2 hreread,
    mapError_eq_ok_iff.2 (parse_rewritten hparse hrepresents)⟩⟩
  have hnames := names_of_parse ((length_readBack _ _).trans (length_targets_blank _ _)) hparse
  rw [write, unknownNames_eq_nil_of_targets (targets_of_given hnames)]
  refine bind_eq_ok_iff.2 ⟨ts, mapError_eq_ok_iff.2 hts, mapError_eq_ok_iff.2 ?_⟩
  exact write_eq_weave nonneg_of_mem_blocks ts

section Counters

/-- Decimal integers with zeros in front of them, and hexadecimal integers. -/
def counters : List (Text × Format) :=
  [("N".toList, ⟨⟨.right, 4, '0'⟩, .integer 10⟩), ("M".toList, ⟨Alignment.default, .integer 16⟩),
    ("U".toList, ⟨Alignment.default, .integer 16⟩)]

theorem distinct_counters : distinct counters = counters := by rfl

theorem blank_counters : blank "n=N;m=M".toList counters =
    ⟨[⟨"n=".toList, 0⟩, ⟨";m=".toList, 1⟩], [], ["N".toList, "M".toList, "U".toList]⟩ := by cbv

theorem frontPadded_counters : ∀ d ∈ distinct counters, d.2.Accepted ∧ d.2.FrontPadded := by
  rw [distinct_counters, counters]
  simp only [List.forall_mem_cons]
  have hhex : Format.Accepted ⟨Alignment.default, .integer 16⟩ :=
    Format.accepted_iff.2 ⟨⟨by decide, by decide⟩, by decide +kernel⟩
  have hpadded : (⟨Alignment.default, .integer 16⟩ : Format).FrontPadded :=
    .integer (.inl rfl) (Alignment.lt_widthLimit (by decide))
  exact ⟨⟨Format.accepted_zeroFilled (by decide) (by decide) 4,
    .integer (.inr rfl) (Alignment.lt_widthLimit (by decide))⟩, ⟨hhex, hpadded⟩, ⟨hhex, hpadded⟩,
    by simp⟩

theorem spaced_counters : (blank "n=N;m=M".toList counters).Spaced := by
  rw [blank_counters]
  rintro (_ | k) b hb
  · obtain rfl := Option.some.inj hb
    simp
  · simp at hb

theorem unsigned_counters : Unsigned (blank "n=N;m=M".toList counters) (distinct counters) := by
  rw [blank_counters, distinct_counters]
  rintro (_ | _ | k) b i d hb - - - -
  · decide
  · decide
  · simp at hb

theorem read_counters {form : Form} (h : build "n=N;m=M".toList counters = .ok form) :
    form.read "n=00-07;m=0FF".toList =
      .ok [("N".toList, some (.int (-7))), ("M".toList, some (.int 255)), ("U".toList, none)] := by
  have hdecimal : Format.pattern ⟨⟨.right, 4, '0'⟩, .integer 10⟩ = .ok _ :=
    Format.pattern_eq (Format.Kind.readsTrees_integer (by decide) (by decide))
  have hhex : Format.pattern ⟨Alignment.default, .integer 16⟩ = .ok _ :=
    Format.pattern_eq (Format.Kind.readsTrees_integer (by decide) (by decide))
  obtain ⟨ps, hps, rfl⟩ := build_eq_ok_iff.1 h
  rw [distinct_counters] at hps
  simp only [counters, patterns, hdecimal, hhex] at hps
  obtain rfl := Except.ok.inj hps
  rw [distinct_counters, blank_counters]
  refine bind_eq_ok_iff.2 ⟨[some "00-07".toList, some "0FF".toList, none], ?_, ?_⟩
  · exact mapError_eq_ok_iff.2 (by decide +kernel)
  · rfl

/-- The text `n=00-07;m=0FF` is written again as `n=00-7;m=ff`. -/
theorem read_rewritten_counters :
    (∀ d ∈ distinct counters, d.2.Accepted ∧ d.2.FrontPadded) ∧
      (blank "n=N;m=M".toList counters).Spaced ∧
        Unsigned (blank "n=N;m=M".toList counters) (distinct counters) ∧
          ∃ form, build "n=N;m=M".toList counters = .ok form ∧
            form.read "n=00-07;m=0FF".toList =
              .ok [("N".toList, some (.int (-7))), ("M".toList, some (.int 255)),
                ("U".toList, none)] ∧
            ∃ rewritten, form.write [(.text "N".toList, .int (-7)), (.text "M".toList, .int 255)] =
                .ok rewritten ∧
              form.read rewritten =
                .ok [("N".toList, some (.int (-7))), ("M".toList, some (.int 255)),
                  ("U".toList, none)] := by
  obtain ⟨form, hbuild, hrewritten⟩ := read_rewritten _ _ frontPadded_counters spaced_counters
    unsigned_counters
  have hread := read_counters hbuild
  exact ⟨frontPadded_counters, spaced_counters, unsigned_counters, form, hbuild, hread,
    hrewritten _ _ hread⟩

end Counters

end Form
end Stencil
