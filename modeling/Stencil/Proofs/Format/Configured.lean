import Stencil.Proofs.Alignment.Configured

/-! # Configured formats

A format is accepted exactly if each of its fields is left out or stands for a value of the right kind,
and the fill suits the values that result.  A number stands for the nearest one in range.
-/
namespace Stencil.Format

variable {entries : List (Value × Value)} {v : Value}

/-- The settings that a configuration can give a kind. -/
def Kind.InRange : Kind → Prop
  | .integer base => 2 ≤ base ∧ base ≤ 36
  | .real digits _ => digits ≤ 100
  | .text regex => Regex.compile regex.source = .ok regex

theorem clamp_mem (low high : Nat) (n : Int) (h : low ≤ high) :
    low ≤ clamp low high n ∧ clamp low high n ≤ high := by
  rw [clamp]
  omega

theorem clamp_of_mem {low high n : Nat} (hlow : low ≤ n) (hhigh : n ≤ high) :
    clamp low high n = n := by
  rw [clamp]
  omega

theorem compile_eq_of_expressionOfText {t : Text} {r : Regex} (h : expressionOfText t = .ok r) :
    Regex.compile t = .ok r := by
  rw [expressionOfText] at h
  split at h
  next r' hr => rwa [Except.ok.inj h] at hr
  next e _ => rcases e with ⟨source, _ | _ | _⟩ <;> simp at h <;> cases h

theorem source_of_expressionOfText {t : Text} {r : Regex} (h : expressionOfText t = .ok r) :
    r.source = t := by
  have hcompile := compile_eq_of_expressionOfText h
  rw [Regex.compile, Regex.compileWith] at hcompile
  split at hcompile <;> cases hcompile
  rfl

theorem compile_of_expressionOfText {t : Text} {r : Regex} (h : expressionOfText t = .ok r) :
    Regex.compile r.source = .ok r := by
  rw [source_of_expressionOfText h]
  exact compile_eq_of_expressionOfText h

theorem clamped_eq_ok_iff {low high n : Nat} :
    clamped low high v = .ok n ↔ ∃ i, Scalar.integer v = .ok i ∧ clamp low high i = n :=
  map_eq_ok_iff

theorem expressionOfText_eq_ok_iff {t : Text} {r : Regex} :
    expressionOfText t = .ok r ↔ t = r.source ∧ Regex.compile r.source = .ok r := by
  constructor
  · intro h
    exact ⟨(source_of_expressionOfText h).symm, compile_of_expressionOfText h⟩
  · rintro ⟨rfl, h⟩
    rw [expressionOfText, h]

/-- The settings that a mapping gives a kind. -/
def Kind.GivenBy (entries : List (Value × Value)) : Kind → Prop
  | .integer base =>
    Value.Given entries "base".toList 10
      (fun v n => ∃ i, Scalar.integer v = .ok i ∧ clamp 2 36 i = n) base
  | .real digits exponential =>
    Value.Given entries "digits".toList 2
        (fun v n => ∃ i, Scalar.integer v = .ok i ∧ clamp 0 100 i = n) digits ∧
      Value.Given entries "exponential_notation".toList false
        (fun v b => Scalar.bool v = .ok b) exponential
  | .text regex =>
    Value.Given entries "regex".toList defaultExpression (fun v t => Scalar.text v = .ok t)
      regex.source

theorem mem_of_given {name : Text} {low high default n : Nat}
    (hdefault : low ≤ default ∧ default ≤ high)
    (h : Value.Given entries name default
      (fun v n => ∃ i, Scalar.integer v = .ok i ∧ clamp low high i = n) n) :
    low ≤ n ∧ n ≤ high := by
  rcases h with ⟨-, rfl⟩ | ⟨v, -, i, -, rfl⟩
  · exact hdefault
  · exact clamp_mem low high i (hdefault.1.trans hdefault.2)

theorem of_kindOfEntries {tag : Tag} {k : Kind} (h : kindOfEntries entries tag = .ok k) :
    k.tag = tag.name ∧ k.InRange ∧ k.GivenBy entries := by
  cases tag with
  | integer =>
    obtain ⟨base, hbase, rfl⟩ := map_eq_ok_iff.1 h
    have hgiven : (Kind.integer base).GivenBy entries := by
      rw [Kind.GivenBy]
      exact Checked.given_of_field (fun _ => clamped_eq_ok_iff.1) hbase
    exact ⟨rfl, mem_of_given (by decide) hgiven, hgiven⟩
  | real =>
    obtain ⟨⟨digits, exponential⟩, hboth, rfl⟩ := map_eq_ok_iff.1 h
    obtain ⟨hdigits, hexponential⟩ := Checked.both_eq_ok_iff.1 hboth
    have hgiven : (Kind.real digits exponential).GivenBy entries :=
      ⟨Checked.given_of_field (fun _ => clamped_eq_ok_iff.1) hdigits,
        Checked.given_of_field (fun _ => id) hexponential⟩
    exact ⟨rfl, (mem_of_given (by decide) hgiven.1).2, hgiven⟩
  | text =>
    obtain ⟨r, hr, rfl⟩ := map_eq_ok_iff.1 h
    split at hr
    next hnone =>
      exact ⟨rfl, compile_of_expressionOfText hr, .inl ⟨hnone, source_of_expressionOfText hr⟩⟩
    next v hv =>
      obtain ⟨t, ht, hr⟩ := bind_eq_ok_iff.1 (Checked.under_eq_ok_iff.1 hr)
      obtain rfl := source_of_expressionOfText hr
      exact ⟨rfl, compile_of_expressionOfText hr, .inr ⟨v, hv, ht⟩⟩

theorem kindOfEntries_of_givenBy {k : Kind} (hrange : k.InRange) (hgiven : k.GivenBy entries) :
    ∃ tag, k.tag = tag.name ∧ kindOfEntries entries tag = .ok k := by
  cases k with
  | integer base =>
    rw [Kind.GivenBy] at hgiven
    have hbase := Checked.field_of_given (fun _ => clamped_eq_ok_iff.2) hgiven
    exact ⟨.integer, rfl, map_eq_ok_iff.2 ⟨base, hbase, rfl⟩⟩
  | real digits exponential =>
    have hdigits := Checked.field_of_given (fun _ => clamped_eq_ok_iff.2) hgiven.1
    have hexponential := Checked.field_of_given (fun _ => id) hgiven.2
    exact ⟨.real, rfl, map_eq_ok_iff.2
      ⟨(digits, exponential), Checked.both_eq_ok_iff.2 ⟨hdigits, hexponential⟩, rfl⟩⟩
  | text r =>
    have hr : expressionOfText r.source = .ok r := expressionOfText_eq_ok_iff.2 ⟨rfl, hrange⟩
    refine ⟨.text, rfl, map_eq_ok_iff.2 ⟨r, ?_, rfl⟩⟩
    rcases hgiven with ⟨hnone, hsource⟩ | ⟨v, hv, htext⟩
    · rwa [hnone, ← hsource]
    · rw [hv]
      exact Checked.under_eq_ok_iff.2 (bind_eq_ok_iff.2 ⟨r.source, htext, hr⟩)

theorem name_of_ofName? {t : Text} {tag : Tag} (h : Tag.ofName? t = some tag) : t = tag.name := by
  have hname := List.find?_some h
  exact (beq_iff_eq.1 hname).symm

theorem ofName?_name (tag : Tag) : Tag.ofName? tag.name = some tag := by
  cases tag <;> rfl

theorem Kind.exists_tag (k : Kind) : ∃ tag : Tag, k.tag = tag.name := by
  cases k with
  | integer base => exact ⟨.integer, rfl⟩
  | real digits exponential => exact ⟨.real, rfl⟩
  | text regex => exact ⟨.text, rfl⟩

theorem Tag.name_injective {tag tag' : Tag} (h : tag.name = tag'.name) : tag = tag' := by
  rw [← Option.some_inj, ← ofName?_name, ← ofName?_name, h]

theorem kindOfEntries_eq_ok_iff {tag : Tag} {k : Kind} :
    kindOfEntries entries tag = .ok k ↔ k.tag = tag.name ∧ k.InRange ∧ k.GivenBy entries := by
  constructor
  · exact of_kindOfEntries
  · rintro ⟨htag, hrange, hgiven⟩
    obtain ⟨tag', htag', h⟩ := kindOfEntries_of_givenBy hrange hgiven
    rwa [Tag.name_injective (htag.symm.trans htag')]

theorem checkTag_eq_ok_iff {tag : Tag} : checkTag tag v = .ok () ↔ v = .text tag.name := by
  constructor
  · intro h
    unfold checkTag at h
    split at h
    next t =>
      by_cases hname : t = tag.name
      · rw [hname]
      · rw [if_neg hname] at h
        cases h
    all_goals cases h
  · rintro rfl
    exact if_pos rfl

/-- The fill suits the values if it neither ends nor starts one on a padded side. -/
theorem fillFault?_eq_none_iff {f : Format} :
    f.fillFault? = none ↔
      (f.alignment.kind.padsEnd = true → f.kind.mayEnd [f.alignment.fill] = false) ∧
        (f.alignment.kind.padsStart = true → f.kind.mayStart [f.alignment.fill] = false) := by
  rw [fillFault?]
  cases hend : f.alignment.kind.padsEnd <;> cases hmayEnd : f.kind.mayEnd [f.alignment.fill] <;>
    cases hstart : f.alignment.kind.padsStart <;> simp

theorem checkFill_eq_ok_iff {f g : Format} : checkFill f = .ok g ↔ f.fillFault? = none ∧ f = g := by
  rw [checkFill]
  split
  next h => simp [h]
  next fault h => simp [h, Checked.fail]

theorem ofEntries_eq_ok_iff {tag : Tag} {f : Format} :
    ofEntries tag entries = .ok f ↔
      Checked.field entries "alignment".toList Alignment.default Alignment.ofValue = .ok f.alignment ∧
        Checked.field entries "kind".toList () (checkTag tag) = .ok () ∧
          kindOfEntries entries tag = .ok f.kind ∧ f.fillFault? = none := by
  rw [ofEntries]
  constructor
  · intro h
    obtain ⟨⟨alignment, given, kind, known⟩, hboth, hfill⟩ := bind_eq_ok_iff.1 h
    obtain ⟨halignment, hboth⟩ := Checked.both_eq_ok_iff.1 hboth
    obtain ⟨hgiven, hboth⟩ := Checked.both_eq_ok_iff.1 hboth
    obtain ⟨hkind, -⟩ := Checked.both_eq_ok_iff.1 hboth
    obtain ⟨hfault, rfl⟩ := checkFill_eq_ok_iff.1 hfill
    exact ⟨halignment, hgiven, hkind, hfault⟩
  · rintro ⟨halignment, hgiven, hkind, hfault⟩
    refine bind_eq_ok_iff.2 ⟨(f.alignment, (), f.kind, ()), ?_, checkFill_eq_ok_iff.2 ⟨hfault, rfl⟩⟩
    refine Checked.both_eq_ok_iff.2 ⟨halignment, Checked.both_eq_ok_iff.2 ⟨hgiven, ?_⟩⟩
    exact Checked.both_eq_ok_iff.2 ⟨hkind, Checked.known_of_open rfl _ _⟩

theorem ofValue_eq_ok_iff {f : Format} :
    ofValue v = .ok f ↔ v = .object (.format f) ∨ ∃ tag entries, v = .mapping entries ∧
      Value.field? entries "kind".toList = some (.text tag.name) ∧ ofEntries tag entries = .ok f := by
  constructor
  · intro h
    unfold ofValue at h
    split at h
    next entries =>
      split at h
      · cases h
      next w hw =>
        dsimp only at h
        split at h
        next tag htag =>
          split at htag
          next t =>
            rw [name_of_ofName? htag] at hw
            exact .inr ⟨tag, entries, rfl, hw, Checked.under_eq_ok_iff.1 h⟩
          · cases htag
        · cases h
    next g => exact .inl (by rw [Except.ok.inj h])
    all_goals cases h
  · rintro (rfl | ⟨tag, entries, rfl, htag, h⟩)
    · rfl
    unfold ofValue
    dsimp only
    rw [htag]
    dsimp only
    rw [ofName?_name]
    exact Checked.under_eq_ok_iff.2 h

/-- A format whose settings are in range and whose fill neither ends nor starts a value on a padded
side. -/
structure Sound (f : Format) : Prop where
  inRange : f.kind.InRange
  notEnd : f.alignment.kind = .left ∨ f.alignment.kind = .center →
    f.kind.mayEnd [f.alignment.fill] = false
  notStart : f.alignment.kind = .right ∨ f.alignment.kind = .center →
    f.kind.mayStart [f.alignment.fill] = false

theorem sound_iff {f : Format} : f.Sound ↔ f.kind.InRange ∧ f.fillFault? = none := by
  rw [fillFault?_eq_none_iff, Alignment.Kind.padsEnd_iff, Alignment.Kind.padsStart_iff]
  exact ⟨fun h => ⟨h.inRange, h.notEnd, h.notStart⟩, fun ⟨hrange, hend, hstart⟩ =>
    ⟨hrange, hend, hstart⟩⟩

/-- The sound format that a mapping gives. -/
structure Configured (entries : List (Value × Value)) (f : Format) : Prop extends Sound f where
  alignment : Value.Given entries "alignment".toList Alignment.default
    (fun v a => v = .object (.alignment a) ∨ ∃ given, v = .mapping given ∧ a.Configured given)
    f.alignment
  tag : ∀ v, Value.field? entries "kind".toList = some v → v = .text f.kind.tag
  settings : f.kind.GivenBy entries

theorem checkTag_field_eq_ok_iff {tag : Tag} :
    Checked.field entries "kind".toList () (checkTag tag) = .ok () ↔
      ∀ v, Value.field? entries "kind".toList = some v → v = .text tag.name := by
  rw [Checked.field_eq_ok_iff]
  constructor
  · rintro (⟨hnone, -⟩ | ⟨v, hv, htag⟩) w hw
    · cases hnone.symm.trans hw
    · obtain rfl := Option.some_inj.1 (hv.symm.trans hw)
      exact checkTag_eq_ok_iff.1 htag
  · intro h
    cases hfield : Value.field? entries "kind".toList with
    | none => exact .inl ⟨rfl, rfl⟩
    | some v => exact .inr ⟨v, rfl, checkTag_eq_ok_iff.2 (h v hfield)⟩

theorem ofEntries_eq_ok_iff_configured {tag : Tag} {f : Format} :
    ofEntries tag entries = .ok f ↔ f.kind.tag = tag.name ∧ f.Configured entries := by
  rw [ofEntries_eq_ok_iff, checkTag_field_eq_ok_iff, kindOfEntries_eq_ok_iff]
  constructor
  · rintro ⟨halignment, hgiven, ⟨htag, hrange, hsettings⟩, hfault⟩
    rw [← htag] at hgiven
    exact ⟨htag, {
      toSound := sound_iff.2 ⟨hrange, hfault⟩
      alignment := Checked.given_of_field (fun _ => Alignment.ofValue_eq_ok_iff.1) halignment
      tag := hgiven
      settings := hsettings }⟩
  · rintro ⟨htag, h⟩
    have halignment :=
      Checked.field_of_given (fun _ => Alignment.ofValue_eq_ok_iff.2) h.alignment
    have hgiven := h.tag
    rw [htag] at hgiven
    exact ⟨halignment, hgiven, ⟨htag, h.inRange, h.settings⟩, (sound_iff.1 h.toSound).2⟩

theorem ofValue_eq_ok_iff_configured {f : Format} :
    ofValue v = .ok f ↔ v = .object (.format f) ∨ ∃ entries, v = .mapping entries ∧
      Value.field? entries "kind".toList = some (.text f.kind.tag) ∧ f.Configured entries := by
  rw [ofValue_eq_ok_iff]
  refine or_congr_right ⟨?_, ?_⟩
  · rintro ⟨tag, entries, rfl, hfield, h⟩
    obtain ⟨htag, hconfigured⟩ := ofEntries_eq_ok_iff_configured.1 h
    exact ⟨entries, rfl, by rwa [htag], hconfigured⟩
  · rintro ⟨entries, rfl, hfield, h⟩
    obtain ⟨tag, htag⟩ := f.kind.exists_tag
    exact ⟨tag, entries, rfl, by rwa [← htag], ofEntries_eq_ok_iff_configured.2 ⟨htag, h⟩⟩

end Stencil.Format
