import Stencil.Text
import Mathlib

/-! # Characters at the ends of a text

How the longest run of characters that pass a test is taken off one end of a text or off both.
-/
namespace Stencil.Text

variable {p : Char → Bool} {u v : Text}

/-- Leading characters that pass a test, in front of one that does not. -/
theorem takeWhile_append_of_stop (hu : ∀ c ∈ u, p c = true)
    (hv : ∀ c ∈ v.head?, p c = false) :
    (u ++ v).takeWhile p = u ∧ (u ++ v).dropWhile p = v := by
  rw [List.takeWhile_append_of_pos hu, List.dropWhile_append_of_pos hu]
  cases v with
  | nil => simp
  | cons c v => simp [hv c rfl]

/-- A text is a run of characters that pass a test and a rest that does not go on with one. -/
theorem exists_run (p : Char → Bool) (text : Text) :
    ∃ u v, text = u ++ v ∧ (∀ c ∈ u, p c = true) ∧ ∀ c ∈ v.head?, p c = false := by
  refine ⟨text.takeWhile p, text.dropWhile p, List.takeWhile_append_dropWhile.symm,
    fun c hc => List.mem_takeWhile_imp hc, fun c hc => ?_⟩
  have hstop := List.head?_dropWhile_not p text
  rwa [Option.mem_def.1 hc] at hstop

theorem rdropWhile_append_of_all (hv : ∀ c ∈ v, p c = true) :
    List.rdropWhile p (u ++ v) = u.rdropWhile p := by
  rw [List.rdropWhile, List.reverse_append,
    List.dropWhile_append_of_pos fun c hc => hv c (List.mem_reverse.1 hc)]
  rfl

/-- Both ends can be cut in either order around a middle part. -/
theorem rdropWhile_dropWhile_append_of_all (hv : ∀ c ∈ v, p c = true) :
    List.rdropWhile p ((u ++ v).dropWhile p) = List.rdropWhile p (u.dropWhile p) := by
  rw [List.dropWhile_append]
  split
  next h =>
    rw [List.isEmpty_iff.1 h, List.dropWhile_eq_nil_iff.2 hv]
  next => exact rdropWhile_append_of_all hv

theorem rdropWhile_append_cons {c : Char} (hc : p c = false) :
    List.rdropWhile p (u ++ c :: v) = u ++ c :: v.rdropWhile p := by
  have hstop : (c :: u.reverse).dropWhile p = c :: u.reverse :=
    List.dropWhile_cons_of_neg (by simp [hc])
  rw [List.rdropWhile, List.reverse_append, List.reverse_cons, List.append_assoc,
    List.singleton_append, List.dropWhile_append, hstop]
  split
  next hempty => simp [List.rdropWhile, List.isEmpty_iff.1 hempty]
  next => simp [List.rdropWhile]

theorem dropWhile_eq_self_iff_head? :
    u.dropWhile p = u ↔ ∀ c, u.head? = some c → p c = false := by
  cases u with
  | nil => simp
  | cons d rest =>
    rw [List.dropWhile_eq_self_iff]
    simp

theorem rdropWhile_eq_self_iff :
    u.rdropWhile p = u ↔ ∀ c, u.getLast? = some c → p c = false := by
  rw [List.rdropWhile, List.reverse_eq_iff, dropWhile_eq_self_iff_head?, List.head?_reverse]

theorem getLast?_append_of (hu : ∀ c ∈ u.getLast?, p c = true)
    (hv : ∀ c ∈ v.getLast?, p c = true) : ∀ c ∈ (u ++ v).getLast?, p c = true := by
  intro c hc
  rw [List.getLast?_append] at hc
  rcases Option.or_eq_some_iff.1 hc with hc | ⟨-, hc⟩
  · exact hv c hc
  · exact hu c hc

theorem eq_replicate_append_dropWhile (c : Char) (u : Text) :
    ∃ n, u = List.replicate n c ++ u.dropWhile (· == c) := by
  refine ⟨(u.takeWhile (· == c)).length, ?_⟩
  have hall : u.takeWhile (· == c) = List.replicate (u.takeWhile (· == c)).length c :=
    List.eq_replicate_of_mem fun d hd => by simpa using List.mem_takeWhile_imp hd
  rw [← hall, List.takeWhile_append_dropWhile]

theorem eq_rdropWhile_append_replicate (c : Char) (u : Text) :
    ∃ n, u = u.rdropWhile (· == c) ++ List.replicate n c := by
  obtain ⟨n, hn⟩ := eq_replicate_append_dropWhile c u.reverse
  exact ⟨n, by rw [List.rdropWhile, ← List.reverse_replicate, ← List.reverse_append, ← hn,
    List.reverse_reverse]⟩

end Stencil.Text
