import Stencil.Format.Configured
import Stencil.Proofs.Outcome
import Stencil.Proofs.Value

/-! # Configured alignments

A part of a configuration is accepted exactly if the parts it is made of are, so an alignment is
accepted exactly if each of its fields is left out or stands for a value of the right kind.
-/
namespace Stencil

namespace Value

/-- What a field of a mapping is: the default if it is left out, or else what its value means. -/
def Given {α : Type} (entries : List (Value × Value)) (name : Text) (default : α)
    (means : Value → α → Prop) (x : α) : Prop :=
  (field? entries name = none ∧ x = default) ∨ ∃ v, field? entries name = some v ∧ means v x

end Value

namespace Checked
variable {α β : Type}

theorem under_eq_ok_iff {s : Step} {c : Checked α} {x : α} : c.under s = .ok x ↔ c = .ok x :=
  mapError_eq_ok_iff

theorem both_eq_ok_iff {a : Checked α} {b : Checked β} {x : α} {y : β} :
    a.both b = .ok (x, y) ↔ a = .ok x ∧ b = .ok y := by
  rcases a with (_ | _) | a <;> rcases b with (_ | _) | b <;> simp [both]

theorem all_eq_ok_iff {cs : List (Checked α)} {xs : List α} :
    all cs = .ok xs ↔ cs = xs.map .ok := by
  induction cs generalizing xs with
  | nil =>
    cases xs <;> simp [all]
  | cons c cs ih =>
    rw [all, map_eq_ok_iff]
    constructor
    · rintro ⟨⟨x, ys⟩, hboth, rfl⟩
      obtain ⟨rfl, hys⟩ := both_eq_ok_iff.1 hboth
      rw [ih.1 hys, List.map_cons]
    · intro h
      obtain ⟨x, ys, rfl, hc, hcs⟩ := List.map_eq_cons_iff.1 h.symm
      exact ⟨(x, ys), both_eq_ok_iff.2 ⟨hc.symm, ih.2 hcs.symm⟩, rfl⟩

variable {entries : List (Value × Value)} {name : Text} {default x : α} {check : Value → Checked α}
  {means : Value → α → Prop}

theorem field_eq_ok_iff :
    field entries name default check = .ok x ↔
      (Value.field? entries name = none ∧ x = default) ∨
        ∃ v, Value.field? entries name = some v ∧ check v = .ok x := by
  rw [field]
  cases Value.field? entries name with
  | none => simp [eq_comm]
  | some v => simp [under_eq_ok_iff]

theorem given_of_field (hmeans : ∀ v, check v = .ok x → means v x)
    (h : field entries name default check = .ok x) : Value.Given entries name default means x := by
  rcases field_eq_ok_iff.1 h with hdefault | ⟨v, hv, hcheck⟩
  · exact .inl hdefault
  · exact .inr ⟨v, hv, hmeans v hcheck⟩

theorem field_of_given (hmeans : ∀ v, means v x → check v = .ok x)
    (h : Value.Given entries name default means x) : field entries name default check = .ok x := by
  rcases h with hdefault | ⟨v, hv, hx⟩
  · exact field_eq_ok_iff.2 (.inl hdefault)
  · exact field_eq_ok_iff.2 (.inr ⟨v, hv, hmeans v hx⟩)

theorem known_of_open {policy : Policy} (h : policy.closed = false) (names : List Text)
    (entries : List (Value × Value)) : known policy names entries = .ok () := by
  rw [known, h]
  rfl

theorem surplus_eq_none_iff {names : List Text} {entry : Value × Value} :
    surplus names entry = none ↔ ∃ name ∈ names, entry.1 = .text name := by
  unfold surplus
  split
  next t ht =>
    rw [ht]
    by_cases h : t ∈ names <;> simp [h]
  next htext =>
    refine iff_of_false (Option.some_ne_none _) ?_
    rintro ⟨name, -, hname⟩
    exact htext name hname

/-- A closed mapping holds nothing but fields. -/
theorem known_eq_ok_iff {policy : Policy} (h : policy.closed = true) {names : List Text}
    {entries : List (Value × Value)} :
    known policy names entries = .ok () ↔ ∀ entry ∈ entries, ∃ name ∈ names, entry.1 = .text name := by
  have hnil : known policy names entries = .ok () ↔ entries.filterMap (surplus names) = [] := by
    rw [known, if_pos h]
    split
    next hps => exact iff_of_true rfl hps
    next hps => exact iff_of_false (by simp) hps
  rw [hnil, List.filterMap_eq_nil_iff]
  simp only [surplus_eq_none_iff]

end Checked

namespace Alignment

theorem Kind.padsEnd_iff {k : Kind} : k.padsEnd = true ↔ k = .left ∨ k = .center := by
  cases k <;> simp [padsEnd]

theorem Kind.padsStart_iff {k : Kind} : k.padsStart = true ↔ k = .right ∨ k = .center := by
  cases k <;> simp [padsStart]

variable {entries : List (Value × Value)} {v : Value}

theorem Kind.ofValue_eq_ok_iff {k : Kind} :
    Kind.ofValue v = .ok k ↔ v = .text k.tag ∨ v = .object (.alignmentKind k) := by
  constructor
  · intro h
    unfold Kind.ofValue at h
    split at h
    next t =>
      cases hfind : Kind.ofTag? t with
      | none => simp [hfind, Checked.fail] at h
      | some k' =>
        obtain rfl : k' = k := by simpa [hfind] using h
        have htag := List.find?_some hfind
        exact .inl (by rw [beq_iff_eq.1 htag])
    · cases h
    next k' => exact .inr (by rw [Except.ok.inj h])
    · cases h
  · rintro (rfl | rfl)
    · cases k <;> rfl
    · rfl

theorem widthOfValue_eq_ok_iff {n : Nat} :
    widthOfValue v = .ok n ↔ Scalar.integer v = .ok (n : Int) := by
  unfold widthOfValue
  rw [bind_eq_ok_iff]
  constructor
  · rintro ⟨i, hi, h⟩
    split at h
    · cases h
    next hnonneg =>
      obtain rfl : i.toNat = n := Except.ok.inj h
      rw [hi, Int.toNat_of_nonneg (by omega)]
  · intro h
    refine ⟨n, h, ?_⟩
    rw [if_neg (by omega)]
    rfl

theorem fillOfValue_eq_ok_iff {c : Char} : fillOfValue v = .ok c ↔ Scalar.text v = .ok [c] := by
  unfold fillOfValue
  rw [bind_eq_ok_iff]
  constructor
  · rintro ⟨t, ht, h⟩
    split at h
    next c' =>
      obtain rfl : c' = c := Except.ok.inj h
      exact ht
    · cases h
  · intro h
    exact ⟨[c], h, rfl⟩

/-- The alignment that a mapping gives. -/
structure Configured (entries : List (Value × Value)) (a : Alignment) : Prop where
  kind : Value.Given entries "kind".toList Kind.none
    (fun v k => v = .text k.tag ∨ v = .object (.alignmentKind k)) a.kind
  width : Value.Given entries "width".toList 0 (fun v (n : Nat) => Scalar.integer v = .ok (n : Int))
    a.width
  fill : Value.Given entries "fill".toList ' ' (fun v c => Scalar.text v = .ok [c]) a.fill

theorem ofEntries_eq_ok_iff {a : Alignment} : ofEntries entries = .ok a ↔ a.Configured entries := by
  rw [ofEntries, map_eq_ok_iff]
  constructor
  · rintro ⟨⟨kind, width, fill, u⟩, hboth, rfl⟩
    obtain ⟨hkind, hboth⟩ := Checked.both_eq_ok_iff.1 hboth
    obtain ⟨hwidth, hboth⟩ := Checked.both_eq_ok_iff.1 hboth
    obtain ⟨hfill, -⟩ := Checked.both_eq_ok_iff.1 hboth
    exact {
      kind := Checked.given_of_field (fun _ => Kind.ofValue_eq_ok_iff.1) hkind
      width := Checked.given_of_field (fun _ => widthOfValue_eq_ok_iff.1) hwidth
      fill := Checked.given_of_field (fun _ => fillOfValue_eq_ok_iff.1) hfill }
  · intro h
    have hkind := Checked.field_of_given (fun _ => Kind.ofValue_eq_ok_iff.2) h.kind
    have hwidth := Checked.field_of_given (fun _ => widthOfValue_eq_ok_iff.2) h.width
    have hfill := Checked.field_of_given (fun _ => fillOfValue_eq_ok_iff.2) h.fill
    refine ⟨(a.kind, a.width, a.fill, ()), Checked.both_eq_ok_iff.2 ⟨hkind, ?_⟩, rfl⟩
    exact Checked.both_eq_ok_iff.2
      ⟨hwidth, Checked.both_eq_ok_iff.2 ⟨hfill, Checked.known_of_open rfl _ _⟩⟩

theorem ofValue_eq_ok_iff {a : Alignment} :
    ofValue v = .ok a ↔
      v = .object (.alignment a) ∨ ∃ entries, v = .mapping entries ∧ a.Configured entries := by
  constructor
  · intro h
    unfold ofValue at h
    split at h
    next entries => exact .inr ⟨entries, rfl, ofEntries_eq_ok_iff.1 h⟩
    next b => exact .inl (by rw [Except.ok.inj h])
    · cases h
  · rintro (rfl | ⟨entries, rfl, h⟩)
    · rfl
    · exact ofEntries_eq_ok_iff.2 h

end Alignment

end Stencil
