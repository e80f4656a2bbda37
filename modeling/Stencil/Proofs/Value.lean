import Mathlib.Data.List.Basic
import Stencil.Value

/-! # Values without objects

What a mapping holds in its entries holds no other objects than the mapping itself, so the parts of a
value without objects have none either.
-/
namespace Stencil.Value

variable {entries : List (Value × Value)} {items : List Value} {name : Text} {v w : Value}

theorem objectsOfEntries_eq_flatMap (entries : List (Value × Value)) :
    objectsOfEntries entries = entries.flatMap fun e => e.1.objects ++ e.2.objects := by
  induction entries with
  | nil => simp [objectsOfEntries]
  | cons e rest ih => simp [objectsOfEntries, ih]

theorem exists_mem_of_field? (h : field? entries name = some v) : ∃ k, (k, v) ∈ entries := by
  obtain ⟨⟨k, w⟩, hmem, hw⟩ := List.exists_of_findSome?_eq_some h
  cases k with
  | text t =>
    by_cases ht : t = name
    · obtain rfl : w = v := by simpa [ht] using hw
      exact ⟨_, hmem⟩
    · simp [ht] at hw
  | _ => cases hw

theorem objects_subset_of_mem (h : (w, v) ∈ entries) : v.objects ⊆ (mapping entries).objects := by
  intro o ho
  rw [objects, objectsOfEntries_eq_flatMap, List.mem_flatMap]
  exact ⟨_, h, List.mem_append_right _ ho⟩

theorem objects_subset_of_field? (h : field? entries name = some v) :
    v.objects ⊆ (mapping entries).objects := by
  obtain ⟨k, hmem⟩ := exists_mem_of_field? h
  exact objects_subset_of_mem hmem

/-- No object stands in the value. -/
def Plain (v : Value) : Prop := v.objects = []

theorem Plain.of_field? (h : (mapping entries).Plain) (hfield : field? entries name = some v) :
    v.Plain :=
  List.subset_nil.1 (h ▸ objects_subset_of_field? hfield)

theorem not_plain_object (o : Object) : ¬(object o).Plain := List.cons_ne_nil _ _

end Stencil.Value
