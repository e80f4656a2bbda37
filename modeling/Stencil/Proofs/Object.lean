import Stencil.Record
import Stencil.Proofs.Definition.Configured

/-! # Objects of configurations

Every format and every definition that is made of a configuration is sound, also where the
configuration holds objects that were made before, since none of these changes afterwards.
-/
namespace Stencil

namespace Object

/-- The objects that configurations give.  A configuration may hold such objects itself. -/
inductive Obtained : Object → Prop
  | member (k : Alignment.Kind) : Obtained (.alignmentKind k)
  | aligned {entries : List (Value × Value)} {a : Alignment}
      (hobjects : ∀ o ∈ (Value.mapping entries).objects, Obtained o)
      (h : Alignment.ofEntries entries = .ok a) : Obtained (.alignment a)
  | called {tag : Format.Tag} {entries : List (Value × Value)} {f : Format}
      (hobjects : ∀ o ∈ (Value.mapping entries).objects, Obtained o)
      (h : Format.ofEntries tag entries = .ok f) : Obtained (.format f)
  | validated {v : Value} {f : Format} (hobjects : ∀ o ∈ v.objects, Obtained o)
      (h : Format.ofValue v = .ok f) : Obtained (.format f)
  | loaded {source : Text} {config : Value} {d : Definition}
      (hobjects : ∀ o ∈ config.objects, Obtained o)
      (h : Definition.ofConfig source config = .ok d) : Obtained (.definition d)
  | target {d : Definition} {t : Text × Format} (hd : Obtained (.definition d))
      (ht : t ∈ d.targets) : Obtained (.format t.2)
  | alignmentOf {f : Format} (hf : Obtained (.format f)) : Obtained (.alignment f.alignment)

/-- Formats are sound, and so are those of a definition, whose names are apart. -/
def Sound : Object → Prop
  | format f => f.Sound
  | definition d => (d.targets.map Prod.fst).Nodup ∧ ∀ t ∈ d.targets, t.2.Sound
  | _ => True

variable {v : Value}

theorem sound_format {f : Format} (hobjects : ∀ o ∈ v.objects, o.Sound)
    (h : Format.ofValue v = .ok f) : f.Sound := by
  rcases Format.ofValue_eq_ok_iff_configured.1 h with rfl | ⟨entries, -, -, hconfigured⟩
  · exact hobjects (.format f) (List.mem_singleton_self _)
  · exact hconfigured.toSound

theorem sound_definition {d : Definition} (hobjects : ∀ o ∈ v.objects, o.Sound)
    (h : Definition.ofValue v = .ok d) : (definition d).Sound := by
  rcases Definition.ofValue_eq_ok_iff_configured.1 h with rfl | ⟨fields, rfl, hconfigured⟩
  · exact hobjects (.definition d) (List.mem_singleton_self _)
  · refine ⟨hconfigured.nodup_targets, fun t ht => ?_⟩
    obtain ⟨entry, hgives, hsubset⟩ := hconfigured.exists_gives ht
    exact sound_format (fun o ho => hobjects o (hsubset ho))
      (Definition.target_eq_ok_iff.1 (Definition.target_eq_ok_iff_gives.2 hgives)).2

theorem Obtained.sound {o : Object} (h : o.Obtained) : o.Sound := by
  induction h with
  | member k => trivial
  | aligned _ _ _ => trivial
  | called _ h _ => exact (Format.ofEntries_eq_ok_iff_configured.1 h).2.toSound
  | validated _ h ih => exact sound_format ih h
  | loaded _ h ih => exact sound_definition ih (mapError_eq_ok_iff.1 h)
  | target _ ht ih => exact ih.2 _ ht
  | alignmentOf _ _ => trivial

/-- The records that an object is made of. -/
def records : Object → List Record
  | alignmentKind _ => []
  | alignment a => [a.record]
  | format f => [f.record, f.alignment.record]
  | definition d => d.record :: d.targets.flatMap fun t => [t.2.record, t.2.alignment.record]

/-- No assignment changes anything of the object. -/
def Fixed (o : Object) : Prop := ∀ r ∈ o.records, r.Fixed

theorem fixed (o : Object) : o.Fixed := by
  intro r hr
  rw [Record.fixed_iff_frozen]
  cases o with
  | alignmentKind k => cases hr
  | alignment a =>
    obtain rfl := List.mem_singleton.1 hr
    rfl
  | format f => rcases List.mem_pair.1 hr with rfl | rfl <;> rfl
  | definition d =>
    rcases List.mem_cons.1 hr with rfl | hr
    · rfl
    · obtain ⟨t, -, ht⟩ := List.mem_flatMap.1 hr
      rcases List.mem_pair.1 ht with rfl | rfl <;> rfl

end Object

/-- A format and a definition are accepted exactly if the configuration is one already or gives it,
whichever way it is done.  So the settings of a format are in range and its fill is told apart from its
values, targets have names of their own in the order of the configuration, and all of it stays as it
is. -/
theorem accepted_iff_configured :
    (∀ (tag : Format.Tag) (entries : List (Value × Value)) (f : Format),
      Format.ofEntries tag entries = .ok f ↔ f.kind.tag = tag.name ∧ f.Configured entries) ∧
    (∀ (v : Value) (f : Format), Format.ofValue v = .ok f ↔
      v = .object (.format f) ∨ ∃ entries, v = .mapping entries ∧
        Value.field? entries "kind".toList = some (.text f.kind.tag) ∧ f.Configured entries) ∧
    (∀ (source : Text) (config : Value) (d : Definition), Definition.ofConfig source config = .ok d ↔
      config = .object (.definition d) ∨ ∃ fields, config = .mapping fields ∧ d.Configured fields) ∧
    (∀ f : Format, (Object.format f).Obtained → f.Sound) ∧
    (∀ d : Definition, (Object.definition d).Obtained →
      (d.targets.map Prod.fst).Nodup ∧ ∀ t ∈ d.targets, t.2.Sound) ∧
    ∀ o : Object, o.Fixed := by
  refine ⟨?_, ?_, ?_, ?_, ?_, ?_⟩
  · intro tag entries f
    exact Format.ofEntries_eq_ok_iff_configured
  · intro v f
    exact Format.ofValue_eq_ok_iff_configured
  · intro source config d
    exact Definition.ofConfig_eq_ok_iff_configured
  · intro f h
    exact h.sound
  · intro d h
    exact h.sound
  · intro o
    exact o.fixed

/-- Zeros in front of integers of the largest base, which a text beyond the bound gives. -/
def zeroPadded : List (Value × Value) := [
  (.text "kind".toList, .text "int".toList),
  (.text "base".toList, .text " 99 ".toList),
  (.text "alignment".toList, .mapping [
    (.text "kind".toList, .object (.alignmentKind .right)),
    (.text "width".toList, .int 8),
    (.text "fill".toList, .text "0".toList)])]

/-- The zeros given directly, by the word for their kind, and as a target beside a format that was made
before. -/
theorem accepted_iff_configured_zeroPadded :
    let f : Format := ⟨⟨.right, 8, '0'⟩, .integer 36⟩
    let g : Format := ⟨Alignment.default, .real 2 false⟩
    let config : Value := .mapping [
      (.text "template".toList, .text "B A".toList),
      (.text "targets".toList, .mapping [
        (.text "B".toList, .mapping zeroPadded), (.text "A".toList, .object (.format g))])]
    let d : Definition := ⟨"B A".toList, [("B".toList, f), ("A".toList, g)]⟩
    (Format.ofEntries .integer zeroPadded = .ok f ∧ f.Configured zeroPadded) ∧
    Format.ofValue (.mapping zeroPadded) = .ok f ∧ (Object.format f).Obtained ∧ f.Sound ∧
    Definition.ofConfig "dict".toList config = .ok d ∧
      (∃ fields, config = .mapping fields ∧ d.Configured fields) ∧
        (Object.definition d).Obtained ∧ (d.targets.map Prod.fst).Nodup ∧
          (∀ t ∈ d.targets, t.2.Sound) ∧ (Object.definition d).Fixed := by
  intro f g config d
  have hcalled : Format.ofEntries .integer zeroPadded = .ok f := by decide +kernel
  have hloaded : Definition.ofConfig "dict".toList config = .ok d := by rfl
  have hf : (Object.format f).Obtained := by
    refine .called (fun o ho => ?_) hcalled
    obtain rfl := List.mem_singleton.1 ho
    exact .member .right
  have hg : (Object.format g).Obtained :=
    .called (fun _ ho => absurd ho List.not_mem_nil) (rfl : Format.ofEntries .real [] = .ok g)
  have hd : (Object.definition d).Obtained := by
    refine .loaded (fun o ho => ?_) hloaded
    rcases List.mem_pair.1 ho with rfl | rfl
    · exact .member .right
    · exact hg
  obtain ⟨called, validated, loaded, sound, targets, fixed⟩ := accepted_iff_configured
  have hconfigured := ((called _ _ _).1 hcalled).2
  have hvalidated := (validated (.mapping zeroPadded) f).2 (.inr ⟨_, rfl, rfl, hconfigured⟩)
  have hgiven := ((loaded _ _ _).1 hloaded).resolve_left nofun
  obtain ⟨hnames, htargets⟩ := targets d hd
  exact ⟨⟨hcalled, hconfigured⟩, hvalidated, hf, sound f hf, hloaded, hgiven, hd, hnames, htargets,
    fixed _⟩

end Stencil
