import Stencil.Definition.Load
import Stencil.Proofs.Form.Distinct
import Stencil.Proofs.Format.Configured

/-! # Configured definitions

A definition is loaded exactly if the configuration is a definition already, or if its template is
given, its targets are left out or give formats, and it has no other entries.
-/
namespace Stencil.Definition

variable {entry : Value × Value} {config : Value} {fields : List (Value × Value)} {d : Definition}
  {t : Text × Format} {targets : List (Text × Format)}

theorem target_eq_ok_iff :
    target entry = .ok t ↔ Scalar.text entry.1 = .ok t.1 ∧ Format.ofValue entry.2 = .ok t.2 := by
  obtain ⟨name, f⟩ := t
  rw [target, Checked.under_eq_ok_iff, Checked.both_eq_ok_iff, Checked.under_eq_ok_iff]

theorem targetsOfValue_eq_ok_iff :
    targetsOfValue config = .ok targets ↔ ∃ entries formats, config = .mapping entries ∧
      entries.map target = formats.map .ok ∧ targets = Form.distinct formats := by
  unfold targetsOfValue
  split
  next entries =>
    rw [map_eq_ok_iff]
    constructor
    · rintro ⟨formats, hall, rfl⟩
      exact ⟨entries, formats, rfl, Checked.all_eq_ok_iff.1 hall, rfl⟩
    · rintro ⟨_, formats, hentries, hall, rfl⟩
      cases hentries
      exact ⟨formats, Checked.all_eq_ok_iff.2 hall, rfl⟩
  next hmapping =>
    constructor
    · intro h
      cases h
    · rintro ⟨entries, -, rfl, -⟩
      exact absurd rfl (hmapping entries)

theorem templateOfEntries_eq_ok_iff {t : Text} :
    templateOfEntries fields = .ok t ↔
      ∃ v, Value.field? fields "template".toList = some v ∧ Scalar.text v = .ok t := by
  rw [templateOfEntries]
  cases Value.field? fields "template".toList with
  | none => simp [Checked.fail, Checked.under, Except.mapError]
  | some v => simp [Checked.under_eq_ok_iff]

/-- An entry gives a target if its key is the name and its value is the format or gives it. -/
structure Gives (entry : Value × Value) (t : Text × Format) : Prop where
  name : Scalar.text entry.1 = .ok t.1
  format : entry.2 = .object (.format t.2) ∨ ∃ given, entry.2 = .mapping given ∧
    Value.field? given "kind".toList = some (.text t.2.kind.tag) ∧ t.2.Configured given

theorem target_eq_ok_iff_gives : target entry = .ok t ↔ Gives entry t := by
  rw [target_eq_ok_iff, Format.ofValue_eq_ok_iff_configured]
  exact ⟨fun ⟨name, format⟩ => ⟨name, format⟩, fun h => ⟨h.name, h.format⟩⟩

theorem targetsOfValue_eq_ok_iff_gives :
    targetsOfValue config = .ok targets ↔ ∃ entries formats, config = .mapping entries ∧
      List.Forall₂ Gives entries formats ∧ Form.Merged formats targets := by
  simp only [targetsOfValue_eq_ok_iff, ← List.forall₂_eq_eq_eq, List.forall₂_map_left_iff,
    List.forall₂_map_right_iff, target_eq_ok_iff_gives, Form.merged_iff]

/-- The definition that a mapping gives: a template, the formats of the entries of another mapping put
together by name, and nothing else. -/
structure Configured (fields : List (Value × Value)) (d : Definition) : Prop where
  template : ∃ v, Value.field? fields "template".toList = some v ∧ Scalar.text v = .ok d.template
  targets : Value.Given fields "targets".toList []
    (fun v targets => ∃ entries formats, v = .mapping entries ∧
      List.Forall₂ Gives entries formats ∧ Form.Merged formats targets) d.targets
  known : ∀ field ∈ fields, ∃ name ∈ ["template".toList, "targets".toList], field.1 = .text name

theorem ofMapping_eq_ok_iff : ofValue (.mapping fields) = .ok d ↔ d.Configured fields := by
  rw [ofValue, map_eq_ok_iff]
  constructor
  · rintro ⟨⟨template, targets, u⟩, hboth, rfl⟩
    obtain ⟨htemplate, hboth⟩ := Checked.both_eq_ok_iff.1 hboth
    obtain ⟨htargets, hknown⟩ := Checked.both_eq_ok_iff.1 hboth
    exact {
      template := templateOfEntries_eq_ok_iff.1 htemplate
      targets := Checked.given_of_field (fun _ => targetsOfValue_eq_ok_iff_gives.1) htargets
      known := (Checked.known_eq_ok_iff rfl).1 hknown }
  · intro h
    have htemplate := templateOfEntries_eq_ok_iff.2 h.template
    have htargets :=
      Checked.field_of_given (fun _ => targetsOfValue_eq_ok_iff_gives.2) h.targets
    refine ⟨(d.template, d.targets, ()), Checked.both_eq_ok_iff.2 ⟨htemplate, ?_⟩, rfl⟩
    exact Checked.both_eq_ok_iff.2 ⟨htargets, (Checked.known_eq_ok_iff rfl).2 h.known⟩

theorem ofValue_eq_ok_iff_configured :
    ofValue config = .ok d ↔
      config = .object (.definition d) ∨ ∃ fields, config = .mapping fields ∧ d.Configured fields := by
  constructor
  · intro h
    cases config with
    | mapping fields => exact .inr ⟨fields, rfl, ofMapping_eq_ok_iff.1 h⟩
    | object o =>
      cases o with
      | definition d' => exact .inl (by rw [Except.ok.inj h])
      | _ => cases h
    | _ => cases h
  · rintro (rfl | ⟨fields, rfl, h⟩)
    · rfl
    · exact ofMapping_eq_ok_iff.2 h

theorem ofConfig_eq_ok_iff_configured {source : Text} :
    ofConfig source config = .ok d ↔
      config = .object (.definition d) ∨ ∃ fields, config = .mapping fields ∧ d.Configured fields :=
  mapError_eq_ok_iff.trans ofValue_eq_ok_iff_configured

namespace Configured

theorem nodup_targets (h : d.Configured fields) : (d.targets.map Prod.fst).Nodup := by
  rcases h.targets with ⟨-, hnil⟩ | ⟨v, -, entries, formats, -, -, hmerged⟩
  · rw [hnil]
    exact List.nodup_nil
  · rw [Form.merged_iff.1 hmerged]
    exact Form.nodup_distinct formats

/-- Each target is given by an entry, whose value stands in the configuration. -/
theorem exists_gives (h : d.Configured fields) (ht : t ∈ d.targets) :
    ∃ entry, Gives entry t ∧ entry.2.objects ⊆ (Value.mapping fields).objects := by
  rcases h.targets with ⟨-, hnil⟩ | ⟨v, hv, entries, formats, rfl, hgives, hmerged⟩
  · rw [hnil] at ht
    cases ht
  · have hmem := ((hmerged.mem_iff t).1 ht).mem
    obtain ⟨⟨i, hi⟩, rfl⟩ := List.get_of_mem hmem
    have hentry := List.get_mem entries ⟨i, hgives.length_eq ▸ hi⟩
    exact ⟨_, hgives.get _ hi,
      List.Subset.trans (Value.objects_subset_of_mem hentry) (Value.objects_subset_of_field? hv)⟩

end Configured
end Stencil.Definition
