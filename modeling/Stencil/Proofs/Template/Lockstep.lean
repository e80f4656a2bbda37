import Stencil.Proofs.Template.Assemble
import Stencil.Template.Read

/-! # Reading in lockstep

A candidate is read in lockstep with the blocks: each static text stands where the block before it
ended, and then the target of the block takes a text.  The pass over the blocks ends well exactly if
the candidate can be taken apart in this way, and then it has captured the texts of the targets with
a pattern.
-/
namespace Stencil

/-- The beginning of a text that the pattern matches. -/
def Pattern.matched (p : Pattern) (text : Text) : Option Text := (p.matchLength text).map text.take

theorem Pattern.eq_append_of_matched {p : Pattern} {text w : Text} (h : p.matched text = some w) :
    p.matchLength text = some w.length ∧ text = w ++ text.drop w.length := by
  obtain ⟨n, hn, rfl⟩ := Option.map_eq_some_iff.1 h
  have hle := p.matchLength_le hn
  have hlen : (text.take n).length = n := by rw [List.length_take, Nat.min_eq_left hle]
  exact ⟨hlen.symm ▸ hn, by rw [hlen, List.take_append_drop]⟩

namespace Reader
open Template

/-- Whether the target at an index has a pattern. -/
def patterned (patterns : List (Option Pattern)) (i : Int) : Bool :=
  (getSigned? patterns i).join.isSome

/-- The text that the target at an index takes in front of what remains, if it can take one. -/
def taken (patterns : List (Option Pattern)) (i : Int) (rest : Text) : Option Text :=
  match getSigned? patterns i with
  | none => none
  | some none => some []
  | some (some p) => p.matched rest

/-- Blocks that take a text apart from its beginning: the static texts stand between the texts that
the targets take, and `rest` remains. -/
inductive Lockstep (patterns : List (Option Pattern)) :
    Text → List Block → List Text → Text → Prop
  | nil (rest : Text) : Lockstep patterns rest [] [] rest
  | cons {b : Block} {blocks : List Block} {w : Text} {texts : List Text} {input rest : Text}
      (htaken : taken patterns b.target (w ++ input) = some w)
      (htail : Lockstep patterns input blocks texts rest) :
      Lockstep patterns (b.static ++ (w ++ input)) (b :: blocks) (w :: texts) rest

/-- What is captured at a block whose target takes the text `w`. -/
def capture (patterns : List (Option Pattern)) (position : Nat) (b : Block) (w : Text) :
    List Capture :=
  if patterned patterns b.target then [⟨position, b.target, w⟩] else []

/-- The captures among the texts that the targets take, the first block at the given position. -/
def capturesFrom (patterns : List (Option Pattern)) (position : Nat) :
    List Block → List Text → List Capture
  | b :: blocks, w :: texts =>
    capture patterns position b w ++ capturesFrom patterns (position + 1) blocks texts
  | _, _ => []

theorem taken_eq_append {patterns : List (Option Pattern)} {i : Int} {rest w : Text}
    (h : taken patterns i rest = some w) : rest = w ++ rest.drop w.length := by
  rw [taken] at h
  cases hp : getSigned? patterns i with
  | none => simp [hp] at h
  | some p =>
    cases p with
    | none =>
      obtain rfl : [] = w := by simpa [hp] using h
      rfl
    | some p =>
      rw [hp] at h
      exact (p.eq_append_of_matched h).2

section Step
variable {patterns : List (Option Pattern)} {final : Text} {position offset : Nat} {b : Block}
  {blocks : List Block}

/-- A block whose static text is met and whose target takes a text is read over. -/
theorem readBlocks_of_taken {w rest : Text} (h : taken patterns b.target (w ++ rest) = some w) :
    readBlocks patterns final position offset (b.static ++ (w ++ rest)) (b :: blocks) =
      (readBlocks patterns final (position + 1) (offset + b.static.length + w.length) rest blocks).map
        (capture patterns position b w ++ ·) := by
  rw [readBlocks, List.take_left, if_pos rfl, List.drop_left]
  rw [taken] at h
  cases hp : getSigned? patterns b.target with
  | none => simp [hp] at h
  | some p =>
    cases p with
    | none =>
      obtain rfl : [] = w := by simpa [hp] using h
      have hnone : capture patterns position b [] = [] := by simp [capture, patterned, hp]
      simp only [hnone, List.nil_append, List.length_nil, Nat.add_zero]
      exact (congrFun Except.map_id _).symm
    | some p =>
      rw [hp] at h
      obtain ⟨hlen, -⟩ := p.eq_append_of_matched h
      have hsome : capture patterns position b w = [⟨position, b.target, w⟩] := by
        simp [capture, patterned, hp]
      simp [hlen, hsome]

theorem exists_error_of_taken_eq_none {rest : Text} (h : taken patterns b.target rest = none) :
    ∃ e, readBlocks patterns final position offset (b.static ++ rest) (b :: blocks) = .error e := by
  rw [readBlocks, List.take_left, if_pos rfl, List.drop_left]
  rw [taken] at h
  cases hp : getSigned? patterns b.target with
  | none => exact ⟨_, rfl⟩
  | some p =>
    cases p with
    | none => simp [hp] at h
    | some p =>
      have hnone : p.matchLength rest = none := by simpa [hp, Pattern.matched] using h
      simp [hnone]

/-- What a block adds to a pass that ends well. -/
theorem readBlocks_cons_eq_ok_iff {input : Text} {captures : List Capture} :
    readBlocks patterns final position offset input (b :: blocks) = .ok captures ↔
      ∃ w rest tail, input = b.static ++ (w ++ rest) ∧
        taken patterns b.target (w ++ rest) = some w ∧
        readBlocks patterns final (position + 1) (offset + b.static.length + w.length) rest blocks =
          .ok tail ∧
        captures = capture patterns position b w ++ tail := by
  constructor
  · intro h
    by_cases hstatic : input.take b.static.length = b.static
    · -- past the static text everything depends on what the target takes
      obtain ⟨rest, rfl⟩ : b.static <+: input := hstatic ▸ List.take_prefix _ _
      cases htaken : taken patterns b.target rest with
      | none =>
        obtain ⟨e, he⟩ := exists_error_of_taken_eq_none htaken
        rw [he] at h
        cases h
      | some w =>
        obtain ⟨rest, rfl⟩ : ∃ rest', rest = w ++ rest' := ⟨_, taken_eq_append htaken⟩
        rw [readBlocks_of_taken htaken, map_eq_ok_iff] at h
        obtain ⟨tail, htail, rfl⟩ := h
        exact ⟨w, rest, tail, rfl, htaken, htail, rfl⟩
    · rw [readBlocks, if_neg hstatic] at h
      cases h
  · rintro ⟨w, rest, tail, rfl, htaken, htail, rfl⟩
    rw [readBlocks_of_taken htaken, htail]
    rfl

end Step

section Lockstep
variable {patterns : List (Option Pattern)} {final : Text}

theorem eq_nil_of_taken {i : Int} {rest w : Text} (hp : patterned patterns i = false)
    (h : taken patterns i rest = some w) : w = [] := by
  rw [patterned] at hp
  rw [taken] at h
  cases hi : getSigned? patterns i with
  | none => simp [hi] at h
  | some p =>
    cases p with
    | none => simpa [hi, eq_comm] using h
    | some p => simp [hi] at hp

theorem mem_capture_iff {position : Nat} {b : Block} {w : Text} {c : Capture} :
    c ∈ capture patterns position b w ↔
      patterned patterns b.target = true ∧ c = ⟨position, b.target, w⟩ := by
  rw [capture]
  split
  next h => simp [h]
  next h => simp [h]

/-- Captures are for targets of the blocks that have a pattern. -/
theorem of_mem_capturesFrom {position : Nat} {blocks : List Block} {texts : List Text} {c : Capture}
    (h : c ∈ capturesFrom patterns position blocks texts) :
    patterned patterns c.target = true ∧ ∃ b ∈ blocks, b.target = c.target := by
  induction blocks generalizing position texts with
  | nil => simp [capturesFrom] at h
  | cons b blocks ih =>
    cases texts with
    | nil => simp [capturesFrom] at h
    | cons w texts =>
      rw [capturesFrom, List.mem_append, mem_capture_iff] at h
      rcases h with ⟨hp, rfl⟩ | h
      · exact ⟨hp, b, List.mem_cons_self, rfl⟩
      · obtain ⟨hp, d, hd, heq⟩ := ih h
        exact ⟨hp, d, List.mem_cons_of_mem b hd, heq⟩

/-- If each capture is the text of its target, and the targets without a pattern have none, then the
targets took their texts. -/
theorem Lockstep.texts_eq_map {text : Int → Text} {input rest : Text} {blocks : List Block}
    {texts : List Text} (h : Lockstep patterns input blocks texts rest) (position : Nat)
    (hcaptured : ∀ c ∈ capturesFrom patterns position blocks texts, c.value = text c.target)
    (hnone : ∀ b ∈ blocks, patterned patterns b.target = false → text b.target = []) :
    texts = blocks.map fun b => text b.target := by
  induction h generalizing position with
  | nil rest => rfl
  | @cons b blocks w texts input rest htaken _ ih =>
    have hrest := ih (position + 1) (fun c hc => hcaptured c (List.mem_append_right _ hc))
      fun d hd => hnone d (List.mem_cons_of_mem b hd)
    rw [List.map_cons, ← hrest]
    congr 1
    cases hp : patterned patterns b.target with
    | true =>
      exact hcaptured ⟨position, b.target, w⟩
        (List.mem_append_left _ (mem_capture_iff.2 ⟨hp, rfl⟩))
    | false => rw [eq_nil_of_taken hp htaken, hnone b List.mem_cons_self hp]

theorem Lockstep.eq_weave {input rest : Text} {blocks : List Block} {texts : List Text}
    (h : Lockstep patterns input blocks texts rest) : input = weave rest blocks texts := by
  induction h with
  | nil rest => rfl
  | cons _ _ ih => rw [weave, ← ih]

/-- In what is woven from texts, each target takes its text in front of what follows it. -/
theorem lockstep_weave_cons_iff {b : Block} {blocks : List Block} {w : Text} {texts : List Text} :
    Lockstep patterns (weave final (b :: blocks) (w :: texts)) (b :: blocks) (w :: texts) final ↔
      taken patterns b.target (w ++ weave final blocks texts) = some w ∧
        Lockstep patterns (weave final blocks texts) blocks texts final := by
  constructor
  · intro h
    generalize hinput : weave final (b :: blocks) (w :: texts) = input at h
    cases h with
    | cons htaken htail =>
      obtain rfl := htail.eq_weave
      exact ⟨htaken, htail⟩
  · rintro ⟨htaken, htail⟩
    exact .cons htaken htail

/-- What is woven from texts of the targets is taken apart into these texts exactly if each target
takes its text in front of what follows it. -/
theorem lockstep_weave_map_iff {text : Int → Text} {blocks : List Block} :
    Lockstep patterns (weave final blocks (blocks.map fun b => text b.target)) blocks
        (blocks.map fun b => text b.target) final ↔
      ∀ k b, blocks[k]? = some b →
        taken patterns b.target (text b.target ++ weave final (blocks.drop (k + 1))
          ((blocks.drop (k + 1)).map fun b => text b.target)) = some (text b.target) := by
  induction blocks with
  | nil => exact ⟨fun _ k b hb => by simp at hb, fun _ => .nil final⟩
  | cons b blocks ih =>
    rw [List.map_cons, lockstep_weave_cons_iff, ih]
    constructor
    · rintro ⟨htaken, hrest⟩ k d hd
      cases k with
      | zero =>
        obtain rfl : b = d := by simpa using hd
        exact htaken
      | succ k => exact hrest k d (by simpa using hd)
    · intro h
      exact ⟨h 0 b rfl, fun k d hd => h (k + 1) d (by simpa using hd)⟩

/-- A pass over the blocks ends well exactly if they take the text apart up to the final text. -/
theorem readBlocks_eq_ok_iff {position offset : Nat} {input : Text} {blocks : List Block}
    {captures : List Capture} :
    readBlocks patterns final position offset input blocks = .ok captures ↔
      ∃ texts, Lockstep patterns input blocks texts final ∧
        captures = capturesFrom patterns position blocks texts := by
  induction blocks generalizing position offset input captures with
  | nil =>
    rw [readBlocks]
    constructor
    · intro h
      split at h
      next heq =>
        subst heq
        exact ⟨[], .nil input, (Except.ok.inj h).symm⟩
      next => cases h
    · rintro ⟨texts, hlock, rfl⟩
      cases hlock with
      | nil => exact if_pos rfl
  | cons b blocks ih =>
    rw [readBlocks_cons_eq_ok_iff]
    constructor
    · rintro ⟨w, rest, tail, rfl, htaken, htail, rfl⟩
      obtain ⟨texts, hlock, rfl⟩ := ih.1 htail
      exact ⟨w :: texts, .cons htaken hlock, rfl⟩
    · rintro ⟨texts, hlock, rfl⟩
      cases hlock with
      | @cons _ _ w texts rest _ htaken hlock =>
        exact ⟨w, rest, _, rfl, htaken, ih.2 ⟨texts, hlock, rfl⟩, rfl⟩

end Lockstep

end Reader
end Stencil
