import Stencil.Proofs.Template.Assemble
import Stencil.Proofs.Template.Winners

/-! # Where the parts of a template stand

The blocks of a template lay out its source: each reference has a span there, and each static text
an offset.  No reference reaches into a static text.  For a template that was cut from a text, the
layout is the one of the winning occurrences, and the source is the text.
-/
namespace Stencil.Template
open Occurrence

/-- The text of a target. -/
def targetText (targets : List Text) (i : Int) : Except DanglingIndex Text :=
  (getSigned? targets i).elim (.error .target) .ok

theorem source_eq (t : Template) : t.source = assemble (targetText t.targets) t.final t.blocks := rfl

def targetLength (targets : List Text) (i : Int) : Nat := ((getSigned? targets i).getD []).length

theorem targetLength_of_ok {targets : List Text} {i : Int} {w : Text}
    (h : targetText targets i = .ok w) : targetLength targets i = w.length := by
  rw [targetText] at h
  cases hi : getSigned? targets i with
  | none =>
    rw [hi] at h
    cases h
  | some target =>
    rw [hi] at h
    obtain rfl : target = w := Except.ok.inj h
    rw [targetLength, hi, Option.getD_some]

/-- The references of blocks that begin at offset `here`, each with its span. -/
def referencesFrom (targets : List Text) (here : Nat) : List Block → List (Int × Span Nat)
  | [] => []
  | b :: rest =>
    let start := here + b.static.length
    let stop := start + targetLength targets b.target
    (b.target, ⟨start, stop⟩) :: referencesFrom targets stop rest

def references (t : Template) : List (Int × Span Nat) := referencesFrom t.targets 0 t.blocks

/-- The static texts of blocks that begin at offset `here`, each with its offset; the final text is
the last one. -/
def staticTextsFrom (targets : List Text) (final : Text) (here : Nat) :
    List Block → List (Nat × Text)
  | [] => [(here, final)]
  | b :: rest =>
    (here, b.static) ::
      staticTextsFrom targets final (here + b.static.length + targetLength targets b.target) rest

def staticTexts (t : Template) : List (Nat × Text) :=
  staticTextsFrom t.targets t.final 0 t.blocks

section From
variable {targets : List Text} {final : Text}

theorem staticTextsFrom_map_snd (here : Nat) (blocks : List Block) :
    (staticTextsFrom targets final here blocks).map (·.2) = blocks.map (·.static) ++ [final] := by
  induction blocks generalizing here with
  | nil => rfl
  | cons b rest ih => simp [staticTextsFrom, ih]

theorem le_of_mem_staticTextsFrom {here : Nat} {blocks : List Block} {p : Nat × Text}
    (hp : p ∈ staticTextsFrom targets final here blocks) : here ≤ p.1 := by
  induction blocks generalizing here with
  | nil => exact Nat.le_of_eq (congrArg Prod.fst (List.mem_singleton.1 hp)).symm
  | cons b rest ih =>
    rcases List.mem_cons.1 hp with rfl | hp
    · exact Nat.le_refl _
    · have hle := ih hp
      omega

theorem le_of_mem_referencesFrom {here : Nat} {blocks : List Block} {r : Int × Span Nat}
    (hr : r ∈ referencesFrom targets here blocks) : here ≤ r.2.start := by
  induction blocks generalizing here with
  | nil => simp [referencesFrom] at hr
  | cons b rest ih =>
    rcases List.mem_cons.1 hr with rfl | hr
    · exact Nat.le_add_right _ _
    · have hle := ih hr
      omega

theorem references_avoid_staticTextsFrom {here : Nat} {blocks : List Block} {r : Int × Span Nat}
    {p : Nat × Text} (hr : r ∈ referencesFrom targets here blocks)
    (hp : p ∈ staticTextsFrom targets final here blocks) :
    r.2.stop ≤ p.1 ∨ p.1 + p.2.length ≤ r.2.start := by
  induction blocks generalizing here with
  | nil => simp [referencesFrom] at hr
  | cons b rest ih =>
    -- of a reference and a static text of different blocks, the one of the first block ends before
    -- the rest of the blocks begins
    rcases List.mem_cons.1 hr with rfl | hr <;> rcases List.mem_cons.1 hp with rfl | hp
    · exact .inr (Nat.le_refl _)
    · exact .inl (le_of_mem_staticTextsFrom hp)
    · refine .inr ?_
      have hle := le_of_mem_referencesFrom hr
      exact Nat.le_trans (Nat.le_add_right _ _) hle
    · exact ih hr hp

theorem isPrefix_of_mem_staticTextsFrom {text : Text} {here : Nat} {blocks : List Block} {p : Nat × Text}
    (hsource : assemble (targetText targets) final blocks = .ok (text.drop here))
    (hp : p ∈ staticTextsFrom targets final here blocks) : p.2 <+: text.drop p.1 := by
  induction blocks generalizing here with
  | nil =>
    obtain rfl := List.mem_singleton.1 hp
    obtain rfl : final = text.drop here := Except.ok.inj hsource
    exact List.prefix_refl _
  | cons b rest ih =>
    obtain ⟨w, tail, hw, htail, heq⟩ := assemble_cons_eq_ok_iff.1 hsource
    rcases List.mem_cons.1 hp with rfl | hp
    · exact ⟨w ++ tail, heq.symm⟩
    · refine ih ?_ hp
      rw [htail, ← List.drop_drop, ← List.drop_drop, heq, List.drop_left,
        targetLength_of_ok hw, List.drop_left]

end From

theorem isPrefix_of_mem_staticTexts {t : Template} {text : Text} (h : t.source = .ok text)
    {p : Nat × Text} (hp : p ∈ t.staticTexts) : p.2 <+: text.drop p.1 :=
  isPrefix_of_mem_staticTextsFrom (by rwa [List.drop_zero]) hp

section Cut
variable {text : Text} {targets : List Text}

theorem cut_drop_cons {here : Nat} {c : Candidate} {rest : List Candidate}
    (hstart : here ≤ c.2.start) (hstop : c.2.start ≤ c.2.stop) :
    cut here (text.drop here) (c :: rest) =
      (⟨(text.drop here).take (c.2.start - here), c.1⟩ ::
        (cut c.2.stop (text.drop c.2.stop) rest).1, (cut c.2.stop (text.drop c.2.stop) rest).2) := by
  have hdrop : (text.drop here).drop (c.2.stop - here) = text.drop c.2.stop := by
    rw [List.drop_drop]
    congr 1
    omega
  rw [cut, if_neg (Nat.not_lt.2 hstart), hdrop]

theorem cut_cons_of_lt {here : Nat} {c : Candidate} {rest : List Candidate}
    (h : c.2.start < here) : cut here text (c :: rest) = cut here text rest := by
  rw [cut, if_pos h]

theorem Candidate.Spells.targetText_eq {c : Candidate} (h : c.Spells text targets) :
    ∃ target, targetText targets c.1 = .ok target ∧
      text.drop c.2.start = target ++ text.drop c.2.stop := by
  obtain ⟨target, hi, -, hat, hstop⟩ := h
  refine ⟨target, ?_, hstop ▸ hat.drop_eq⟩
  rw [targetText, getSigned_natCast, hi]
  rfl

variable {cs : List Candidate} (hcs : ∀ c ∈ cs, c.Spells text targets)
include hcs

/-- Cutting a text loses nothing of it. -/
theorem assemble_cut (here : Nat) :
    assemble (targetText targets) (cut here (text.drop here) cs).2
      (cut here (text.drop here) cs).1 = .ok (text.drop here) := by
  induction cs generalizing here with
  | nil => rfl
  | cons c rest ih =>
    have hrest := ih fun d hd => hcs d (List.mem_cons_of_mem c hd)
    by_cases hlt : c.2.start < here
    · rw [cut_cons_of_lt hlt]
      exact hrest here
    · have hc := hcs c List.mem_cons_self
      obtain ⟨target, htarget, hdrop⟩ := hc.targetText_eq
      have hsplit : (text.drop here).drop (c.2.start - here) = target ++ text.drop c.2.stop := by
        rw [List.drop_drop, ← hdrop]
        congr 1
        omega
      rw [cut_drop_cons (Nat.le_of_not_lt hlt) (Nat.le_of_lt hc.start_lt_stop),
        assemble_cons_of_ok htarget (hrest c.2.stop), ← hsplit, List.take_append_drop]

/-- The references of a text that was cut stand where the winners stand. -/
theorem referencesFrom_cut (here : Nat) :
    referencesFrom targets here (cut here (text.drop here) cs).1 =
      (winners here cs).map fun c => ((c.1 : Int), c.2) := by
  induction cs generalizing here with
  | nil => rfl
  | cons c rest ih =>
    have hrest := ih fun d hd => hcs d (List.mem_cons_of_mem c hd)
    by_cases hlt : c.2.start < here
    · rw [cut_cons_of_lt hlt, winners, if_pos hlt]
      exact hrest here
    · have hc := hcs c List.mem_cons_self
      have hpos := hc.start_lt_stop
      have hle := hc.stop_le
      obtain ⟨target, hi, -, -, hstop⟩ := hc
      have hstart : here + ((text.drop here).take (c.2.start - here)).length = c.2.start := by
        rw [List.length_take, List.length_drop]
        omega
      have hlength : targetLength targets c.1 = target.length := by
        rw [targetLength, getSigned_natCast, hi, Option.getD_some]
      rw [cut_drop_cons (Nat.le_of_not_lt hlt) (Nat.le_of_lt hpos), winners, if_neg hlt]
      simp only [referencesFrom, hstart, hlength, ← hstop, List.map_cons, hrest]

end Cut
end Stencil.Template
