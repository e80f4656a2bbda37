import Stencil.Form
import Stencil.Proofs.Format.Delimited
import Stencil.Proofs.Template.RoundTrip

/-! # Filling out a form and reading it

If the formats of a form are delimited and each block is followed by text that ends its value, then
what is read from a form that was filled out are the values that it was filled out with.
-/
namespace Stencil

namespace Template

/-- The static text behind the value of a block. -/
def following (t : Template) (k : Nat) : Text :=
  ((t.blocks[k + 1]?).map (·.static)).getD t.final

end Template

namespace Form
open Template Reader

variable {template : Text} {formats : List (Text × Format)}

theorem exists_patterns (h : ∀ d ∈ formats, ∃ r, d.2.pattern = .ok r) :
    ∃ ps, patterns formats = .ok ps := by
  induction formats with
  | nil => exact ⟨[], rfl⟩
  | cons d formats ih =>
    obtain ⟨r, hr⟩ := h d List.mem_cons_self
    obtain ⟨ps, hps⟩ := ih fun e he => h e (List.mem_cons_of_mem d he)
    exact ⟨some r.toPattern :: ps, bind_eq_ok_iff.2 ⟨r, hr, bind_eq_ok_iff.2 ⟨ps, hps, rfl⟩⟩⟩

theorem getElem?_patterns {ps : List (Option Pattern)} (h : patterns formats = .ok ps) {i : Nat}
    {d : Text × Format} (hd : formats[i]? = some d) :
    ∃ r, d.2.pattern = .ok r ∧ ps[i]? = some (some r.toPattern) := by
  induction formats generalizing i ps with
  | nil => simp at hd
  | cons e formats ih =>
    obtain ⟨r, hr, h⟩ := bind_eq_ok_iff.1 h
    obtain ⟨qs, hqs, heq⟩ := bind_eq_ok_iff.1 h
    obtain rfl := Except.ok.inj heq
    cases i with
    | zero =>
      obtain rfl : e = d := by simpa using hd
      exact ⟨r, hr, rfl⟩
    | succ i => exact ih hqs (by simpa using hd)

/-- The first pattern that is no expression is the one that is reported. -/
theorem of_patterns_eq_error {e : Regex.Error} (h : patterns formats = .error e) :
    ∃ d ∈ formats, d.2.pattern = .error e := by
  induction formats with
  | nil => cases h
  | cons d formats ih =>
    cases hd : d.2.pattern with
    | error e' =>
      refine ⟨d, List.mem_cons_self, ?_⟩
      rw [patterns, hd] at h
      cases h
      rw [hd]
    | ok r =>
      cases hps : patterns formats with
      | ok ps =>
        rw [patterns, hd, hps] at h
        cases h
      | error e' =>
        rw [patterns, hd, hps] at h
        obtain ⟨d', hmem, hd'⟩ := ih (hps.trans (by cases h; rfl))
        exact ⟨d', List.mem_cons_of_mem d hmem, hd'⟩

/-- The template of a form. -/
def blank (template : Text) (formats : List (Text × Format)) : Template :=
  Template.compile template ((distinct formats).map (·.1))

theorem build_eq_ok_iff {form : Form} :
    build template formats = .ok form ↔ ∃ ps, patterns (distinct formats) = .ok ps ∧
      form = ⟨distinct formats, .ofPatterns (blank template formats) ps⟩ := by
  constructor
  · intro h
    obtain ⟨ps, hps, heq⟩ := bind_eq_ok_iff.1 h
    exact ⟨ps, hps, (Except.ok.inj heq).symm⟩
  · rintro ⟨ps, hps, rfl⟩
    exact bind_eq_ok_iff.2 ⟨ps, hps, rfl⟩

theorem patterns_of_build_eq_error {e : Regex.Error}
    (h : build template formats = .error e) : patterns (distinct formats) = .error e := by
  cases hps : patterns (distinct formats) with
  | error e' =>
    rw [build, hps] at h
    exact congrArg _ (Except.error.inj h)
  | ok ps =>
    rw [build, hps] at h
    cases h

/-- The values of a form: each target has one that its format holds, and nothing else has one. -/
structure Suits (formats : List (Text × Format)) (values : List (Value × Value)) : Prop where
  targets : ∀ e ∈ values, ∃ d ∈ formats, e.1 = .text d.1
  values : ∀ d ∈ formats, ∃ v, Value.field? values d.1 = some v ∧ d.2.Holds v

/-- Behind each block stands text, which at most the end of the template may lack, and it starts with
a character that ends the value of the block. -/
def Separated (t : Template) (formats : List (Text × Format)) : Prop :=
  ∀ (k : Nat) (b : Block) (i : Nat) (d : Text × Format), t.blocks[k]? = some b → b.target = i →
    formats[i]? = some d →
      (k + 1 < t.blocks.length → t.following k ≠ []) ∧ ∀ c ∈ (t.following k).head?, d.2.Ends c

/-- What is read from a form that was filled out: the values of the targets that are referred to. -/
def readBack (form : Form) (values : List (Value × Value)) : List (Text × Option Value) :=
  form.formats.zipIdx.map fun (d, i) =>
    (d.1, if form.template.referencesTo i = [] then none else Value.field? values d.1)

/-- How a text stands for the value of a target: it is what the value is written as, it is read as the
value, and the pattern finds it in front of text that ends it. -/
def Represents (values : List (Value × Value)) (d : Text × Format) (t : Text) : Prop :=
  ∃ v, Value.field? values d.1 = some v ∧ d.2.write v = .ok t ∧ d.2.read t = .ok v ∧
    ∀ r, d.2.pattern = .ok r → ∀ rest, (∀ c ∈ rest.head?, d.2.Ends c) →
      r.toPattern.matched (t ++ rest) = some t

section Values
variable {values : List (Value × Value)}

theorem exists_represents {d : Text × Format} (haccepted : d.2.Accepted) (hdelimited : d.2.Delimited)
    {v : Value} (hvalue : Value.field? values d.1 = some v) (hholds : d.2.Holds v) :
    ∃ t, Represents values d t := by
  obtain ⟨r, hr, h⟩ := hdelimited.exists_pattern haccepted
  obtain ⟨t, hwrite, hread, hmatched⟩ := h v hholds
  refine ⟨t, v, hvalue, hwrite, hread, fun r' hr' rest hrest => ?_⟩
  obtain rfl := Except.ok.inj (hr.symm.trans hr')
  exact hmatched rest hrest

/-- If each target has a text that is written for it, then these are the texts of the targets. -/
theorem exists_texts_of {R : Text × Format → Text → Prop}
    (hR : ∀ d t, R d t → (Value.field? values d.1).elim (.ok []) d.2.write = .ok t)
    (h : ∀ d ∈ formats, ∃ t, R d t) :
    ∃ ts, texts values formats = .ok ts ∧ List.Forall₂ R formats ts := by
  induction formats with
  | nil => exact ⟨[], rfl, .nil⟩
  | cons d formats ih =>
    obtain ⟨t, ht⟩ := h d List.mem_cons_self
    obtain ⟨ts, hts, hall⟩ := ih fun e he => h e (List.mem_cons_of_mem d he)
    refine ⟨t :: ts, ?_, .cons ht hall⟩
    have htext := hR d t ht
    rw [texts]
    cases hvalue : Value.field? values d.1 <;> rw [hvalue] at htext
    · obtain rfl := Except.ok.inj htext
      exact bind_eq_ok_iff.2 ⟨[], rfl, bind_eq_ok_iff.2 ⟨ts, hts, rfl⟩⟩
    · exact bind_eq_ok_iff.2 ⟨t, htext, bind_eq_ok_iff.2 ⟨ts, hts, rfl⟩⟩

theorem exists_texts (h : ∀ d ∈ formats, ∃ t, Represents values d t) :
    ∃ ts, texts values formats = .ok ts ∧ List.Forall₂ (Represents values) formats ts := by
  apply exists_texts_of _ h
  rintro d t ⟨v, hvalue, hwrite, -⟩
  rwa [hvalue]

theorem unknownNames_eq_nil_of_targets {form : Form}
    (h : ∀ e ∈ values, ∃ d ∈ form.formats, e.1 = .text d.1) : form.unknownNames values = [] := by
  rw [unknownNames, List.filter_eq_nil_iff]
  intro key hkey
  obtain ⟨e, he, rfl⟩ := List.mem_map.1 hkey
  obtain ⟨d, hd, heq⟩ := h e he
  rw [heq]
  simp only [Bool.not_eq_true, Bool.not_eq_false', List.any_eq_true, beq_iff_eq]
  exact ⟨d, hd, rfl⟩

theorem unknownNames_eq_nil {form : Form} (h : Suits form.formats values) :
    form.unknownNames values = [] := unknownNames_eq_nil_of_targets h.targets

/-- What a target adds to captured texts that are parsed. -/
theorem parse_cons_eq_ok_iff {d : Text × Format} {w : Option Text} {captured : List (Option Text)}
    {parsed : List (Text × Option Value)} :
    parse (d :: formats) (w :: captured) = .ok parsed ↔
      ∃ v rest, w.elim (.ok none) (fun t => (d.2.read t).map some) = .ok v ∧
        parse formats captured = .ok rest ∧ parsed = (d.1, v) :: rest := by
  cases w with
  | none =>
    constructor
    · intro h
      obtain ⟨v, hv, h⟩ := bind_eq_ok_iff.1 h
      obtain ⟨rest, hrest, heq⟩ := bind_eq_ok_iff.1 h
      exact ⟨v, rest, hv, hrest, (Except.ok.inj heq).symm⟩
    · rintro ⟨v, rest, hv, hrest, rfl⟩
      exact bind_eq_ok_iff.2 ⟨v, hv, bind_eq_ok_iff.2 ⟨rest, hrest, rfl⟩⟩
  | some t =>
    constructor
    · intro h
      obtain ⟨v, hv, h⟩ := bind_eq_ok_iff.1 h
      obtain ⟨rest, hrest, heq⟩ := bind_eq_ok_iff.1 h
      exact ⟨v, rest, hv, hrest, (Except.ok.inj heq).symm⟩
    · rintro ⟨v, rest, hv, hrest, rfl⟩
      exact bind_eq_ok_iff.2 ⟨v, hv, bind_eq_ok_iff.2 ⟨rest, hrest, rfl⟩⟩

/-- The captured texts are parsed to the values that they stand for. -/
theorem parse_eq (form : Form) {ts : List Text}
    (h : List.Forall₂ (Represents values) formats ts) (k : Nat) :
    parse formats ((ts.zipIdx k).map fun (t, i) =>
        if form.template.referencesTo i = [] then none else some t) =
      .ok ((formats.zipIdx k).map fun (d, i) =>
        (d.1, if form.template.referencesTo i = [] then none else Value.field? values d.1)) := by
  induction h generalizing k with
  | nil => rfl
  | @cons d t formats ts ht _ ih =>
    obtain ⟨v, hvalue, -, hread, -⟩ := ht
    have hrest := ih (k + 1)
    simp only [List.zipIdx_cons, List.map_cons] at hrest ⊢
    by_cases href : form.template.referencesTo k = []
    · simp only [href, if_true, parse, hrest]
      rfl
    · simp only [href, if_false, parse, hread, hvalue, hrest]
      rfl

end Values

/-- What is written behind a block starts with the static text behind its value. -/
theorem head?_weave (t : Template) (k : Nat) (texts : List Text)
    (h : k + 1 < t.blocks.length → t.following k ≠ [])
    (hlength : texts.length = (t.blocks.drop (k + 1)).length) :
    (weave t.final (t.blocks.drop (k + 1)) texts).head? = (t.following k).head? := by
  rw [following] at h ⊢
  by_cases hk : k + 1 < t.blocks.length
  · have hne := h hk
    rw [List.getElem?_eq_getElem hk, Option.map_some, Option.getD_some] at hne ⊢
    rw [List.drop_eq_getElem_cons hk, List.length_cons] at hlength
    obtain ⟨w, ws, rfl⟩ := List.exists_cons_of_length_eq_add_one hlength
    rw [List.drop_eq_getElem_cons hk, weave, List.head?_append_of_ne_nil _ hne]
  · rw [List.getElem?_eq_none (by omega), List.drop_eq_nil_of_le (by omega)]
    rfl

theorem readBack_eq_zipIdx (t : Template) {ts : List Text} (h : ts.length = t.targets.length) :
    t.readBack ts = (ts.zipIdx 0).map fun (w, i) =>
      if t.referencesTo i = [] then none else some w := by
  refine List.ext_getElem (by simp [Template.readBack, h]) fun i hi hi' => ?_
  have hlt : i < ts.length := by simpa using hi'
  simp [Template.readBack, hlt]

section Filled
variable {values : List (Value × Value)} {ps : List (Option Pattern)} {ts : List Text}

theorem length_targets_blank (template : Text) (formats : List (Text × Format)) :
    (blank template formats).targets.length = (distinct formats).length := by
  simp [blank, compile]

/-- Every reference is to a target that has a format. -/
theorem exists_format_of_mem_blocks {b : Block} (hb : b ∈ (blank template formats).blocks) :
    ∃ (i : Nat) (d : Text × Format), b.target = i ∧ (distinct formats)[i]? = some d := by
  obtain ⟨i, hi, hlt⟩ := exists_index_of_mem_blocks hb
  have hformat : i < (distinct formats).length := length_targets_blank template formats ▸ hlt
  exact ⟨i, _, hi, List.getElem?_eq_getElem hformat⟩

theorem patterned_of_mem_blocks (hps : patterns (distinct formats) = .ok ps) {b : Block}
    (hb : b ∈ (blank template formats).blocks) :
    patterned (ofPatterns (blank template formats) ps).patterns b.target = true := by
  obtain ⟨i, d, hi, hd⟩ := exists_format_of_mem_blocks hb
  obtain ⟨r, -, hp⟩ := getElem?_patterns hps hd
  have hlt := (List.getElem?_eq_some_iff.1 hd).1
  rw [← length_targets_blank template formats] at hlt
  rw [patterned, hi, getSigned_ofPatterns hlt, hp]
  rfl

/-- The text of each block is taken in front of what is written behind it, if the texts of the targets
that are referred to stand for their values. -/
theorem lockstep_of_represents (hps : patterns (distinct formats) = .ok ps)
    (hseparated : Separated (blank template formats) (distinct formats))
    (hall : ∀ (i : Nat) (d : Text × Format), (distinct formats)[i]? = some d →
      (blank template formats).referencesTo i ≠ [] → Represents values d (valueAt ts i)) :
    Lockstep (ofPatterns (blank template formats) ps).patterns
      (weave (blank template formats).final (blank template formats).blocks
        ((blank template formats).blocks.map fun b => valueAt ts b.target))
      (blank template formats).blocks
      ((blank template formats).blocks.map fun b => valueAt ts b.target)
      (blank template formats).final := by
  refine lockstep_weave_map_iff.2 fun k b hb => ?_
  have hmem := List.mem_of_getElem? hb
  obtain ⟨i, d, hi, hd⟩ := exists_format_of_mem_blocks hmem
  obtain ⟨r, hr, hp⟩ := getElem?_patterns hps hd
  have hreferred : (blank template formats).referencesTo i ≠ [] :=
    fun hnil => referencesTo_eq_nil_iff.1 hnil b hmem hi
  obtain ⟨v, -, -, -, hmatched⟩ := hall i d hd hreferred
  obtain ⟨hne, hends⟩ := hseparated k b i d hb hi hd
  refine (taken_ofPatterns hmem hi hp _).trans ?_
  rw [hi]
  apply hmatched r hr
  intro c hc
  rw [head?_weave _ k _ hne (List.length_map _)] at hc
  exact hends c hc

theorem read_filled_of_referenced (hps : patterns (distinct formats) = .ok ps)
    (honce : ∀ i : Nat, ((blank template formats).referencesTo i).length ≤ 1)
    (hseparated : Separated (blank template formats) (distinct formats))
    (hall : ∀ (i : Nat) (d : Text × Format), (distinct formats)[i]? = some d →
      (blank template formats).referencesTo i ≠ [] → Represents values d (valueAt ts i)) :
    (ofPatterns (blank template formats) ps).read
        (weave (blank template formats).final (blank template formats).blocks
          ((blank template formats).blocks.map fun b => valueAt ts b.target)) =
      .ok ((blank template formats).readBack ts) :=
  (read_eq_readBack_iff (r := ofPatterns (blank template formats) ps)
    (fun _ hb => exists_index_of_mem_blocks hb) (fun _ hb => patterned_of_mem_blocks hps hb)
    fun i _ => honce i).2 (lockstep_of_represents hps hseparated hall)

theorem valueAt_of_forall₂ {R : Text × Format → Text → Prop}
    (hall : List.Forall₂ R (distinct formats) ts) {i : Nat} {d : Text × Format}
    (hd : (distinct formats)[i]? = some d) : R d (valueAt ts i) := by
  obtain ⟨hlt, rfl⟩ := List.getElem?_eq_some_iff.1 hd
  have htext : i < ts.length := hall.length_eq ▸ hlt
  rw [valueAt_natCast, List.getElem?_eq_getElem htext, Option.getD_some]
  exact hall.get hlt htext

theorem read_filled (hps : patterns (distinct formats) = .ok ps)
    (honce : ∀ i : Nat, ((blank template formats).referencesTo i).length ≤ 1)
    (hseparated : Separated (blank template formats) (distinct formats))
    (hall : List.Forall₂ (Represents values) (distinct formats) ts) :
    (ofPatterns (blank template formats) ps).read
        (weave (blank template formats).final (blank template formats).blocks
          ((blank template formats).blocks.map fun b => valueAt ts b.target)) =
      .ok ((blank template formats).readBack ts) := by
  apply read_filled_of_referenced hps honce hseparated
  exact fun i d hd _ => valueAt_of_forall₂ hall hd

end Filled

/-- If the formats are accepted and delimited, no target is referred to twice, and each block is
followed by text that ends its value, then a form that was filled out is read back to the values of
the targets that are referred to. -/
theorem read_write_delimited (template : Text) (formats : List (Text × Format))
    (hformats : ∀ d ∈ distinct formats, d.2.Accepted ∧ d.2.Delimited)
    (honce : ∀ i : Nat, ((blank template formats).referencesTo i).length ≤ 1)
    (hseparated : Separated (blank template formats) (distinct formats)) :
    ∃ form, build template formats = .ok form ∧
      ∀ values, Suits form.formats values →
        ∃ text, form.write values = .ok text ∧ form.read text = .ok (form.readBack values) := by
  have hpattern : ∀ d ∈ distinct formats, ∃ r, d.2.pattern = .ok r := by
    intro d hd
    obtain ⟨haccepted, hdelimited⟩ := hformats d hd
    obtain ⟨r, hr, -⟩ := hdelimited.exists_pattern haccepted
    exact ⟨r, hr⟩
  obtain ⟨ps, hps⟩ := exists_patterns hpattern
  refine ⟨_, build_eq_ok_iff.2 ⟨ps, hps, rfl⟩, fun values hvalues => ?_⟩
  have hrepresents : ∀ d ∈ distinct formats, ∃ t, Represents values d t := by
    intro d hd
    obtain ⟨v, hvalue, hholds⟩ := hvalues.values d hd
    exact exists_represents (hformats d hd).1 (hformats d hd).2 hvalue hholds
  obtain ⟨ts, hts, hall⟩ := exists_texts hrepresents
  have hlength : ts.length = (blank template formats).targets.length := by
    rw [← hall.length_eq]
    simp [blank, compile]
  refine ⟨_, ?_, bind_eq_ok_iff.2 ⟨_, mapError_eq_ok_iff.2 (read_filled hps honce hseparated hall), ?_⟩⟩
  · rw [write, unknownNames_eq_nil hvalues]
    refine bind_eq_ok_iff.2 ⟨ts, mapError_eq_ok_iff.2 hts, mapError_eq_ok_iff.2 ?_⟩
    exact write_eq_weave nonneg_of_mem_blocks ts
  · rw [readBack_eq_zipIdx _ hlength]
    exact mapError_eq_ok_iff.2
      (parse_eq ⟨distinct formats, ofPatterns (blank template formats) ps⟩ hall 0)

section Labelled

/-- Integers with zeros in front of them, runs of characters, and hexadecimal integers. -/
def labelled : List (Text × Format) :=
  [("N".toList, ⟨⟨.right, 4, '0'⟩, .integer 10⟩),
    ("W".toList, ⟨Alignment.default, .text ⟨Format.defaultExpression, .ofList Format.Kind.runTrees⟩⟩),
    ("U".toList, ⟨Alignment.default, .integer 16⟩)]

theorem distinct_labelled : distinct labelled = labelled := by rfl

theorem blank_labelled : blank "n=N;w=W".toList labelled =
    ⟨[⟨"n=".toList, 0⟩, ⟨";w=".toList, 1⟩], [], ["N".toList, "W".toList, "U".toList]⟩ := by cbv

theorem delimited_labelled : ∀ d ∈ distinct labelled, d.2.Accepted ∧ d.2.Delimited := by
  rw [distinct_labelled, labelled]
  simp only [List.forall_mem_cons]
  refine ⟨⟨Format.accepted_zeroFilled (by decide) (by decide) 4,
    .integer (Alignment.lt_widthLimit (by decide))⟩,
    ⟨Format.accepted_iff.2 ⟨?_, by decide +kernel⟩, .run rfl rfl⟩,
    ⟨Format.accepted_iff.2 ⟨⟨by decide, by decide⟩, by decide +kernel⟩,
      .integer (Alignment.lt_widthLimit (by decide))⟩, by simp⟩
  exact Format.Kind.readsTrees_run.compile_eq

theorem length_referencesTo_labelled (i : Nat) :
    ((blank "n=N;w=W".toList labelled).referencesTo i).length ≤ 1 := by
  rw [blank_labelled]
  rcases i with _ | _ | i
  · decide
  · decide
  · rw [length_referencesTo, List.countP_eq_zero.2 (by simp; omega)]
    exact Nat.zero_le 1

theorem separated_labelled : Separated (blank "n=N;w=W".toList labelled) (distinct labelled) := by
  rw [blank_labelled, distinct_labelled]
  rintro (_ | _ | k) b i d hb hi hd
  · obtain rfl := Option.some.inj hb
    obtain rfl : 0 = i := Int.ofNat_inj.1 hi
    obtain rfl := Option.some.inj hd
    refine ⟨fun _ => by decide, fun c hc => ?_⟩
    obtain rfl := Option.some.inj hc
    exact ⟨by decide +kernel, by decide, by decide⟩
  · obtain rfl := Option.some.inj hb
    exact ⟨by simp, by simp [following]⟩
  · simp at hb

theorem suits_labelled : Suits (distinct labelled) [(.text "N".toList, .int 0),
    (.text "W".toList, .text "ab".toList), (.text "U".toList, .int 7)] := by
  rw [distinct_labelled, labelled]
  constructor
  · simp
  · simp only [List.forall_mem_cons]
    have hseven : 7 < 16 ^ Numeral.digitLimit :=
      (by decide : 7 < 16 ^ 1).trans_le (Nat.pow_le_pow_right (by decide) (by decide))
    refine ⟨⟨_, rfl, .integer (Nat.pow_pos (by decide))⟩, ⟨_, rfl, .run fun c hc => ?_⟩,
      ⟨_, rfl, .integer hseven⟩, by simp⟩
    have hall : ("ab".toList.all fun c => !Text.isBlank c) = true := by decide
    simpa using List.all_eq_true.1 hall c hc

/-- A number, a word, and a target that the template does not have. -/
theorem read_write_delimited_labelled :
    (∀ d ∈ distinct labelled, d.2.Accepted ∧ d.2.Delimited) ∧
      (∀ i : Nat, ((blank "n=N;w=W".toList labelled).referencesTo i).length ≤ 1) ∧
        Separated (blank "n=N;w=W".toList labelled) (distinct labelled) ∧
          ∃ form, build "n=N;w=W".toList labelled = .ok form ∧
            ∃ text, form.write [(.text "N".toList, .int 0), (.text "W".toList, .text "ab".toList),
                (.text "U".toList, .int 7)] = .ok text ∧
              form.read text = .ok [("N".toList, some (.int 0)),
                ("W".toList, some (.text "ab".toList)), ("U".toList, none)] := by
  obtain ⟨form, hbuild, hread⟩ :=
    read_write_delimited _ _ delimited_labelled length_referencesTo_labelled separated_labelled
  refine ⟨delimited_labelled, length_referencesTo_labelled, separated_labelled, form, hbuild, ?_⟩
  obtain ⟨ps, -, rfl⟩ := build_eq_ok_iff.1 hbuild
  obtain ⟨text, hwrite, htext⟩ := hread _ suits_labelled
  refine ⟨text, hwrite, htext.trans (congrArg Except.ok ?_)⟩
  simp only [readBack, Form.template, ofPatterns, blank_labelled]
  rfl

end Labelled

end Form
end Stencil
