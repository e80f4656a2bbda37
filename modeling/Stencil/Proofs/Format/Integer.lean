import Stencil.Proofs.Format.Accepted
import Stencil.Proofs.Format.Pattern

/-! # Formats of integers

The pattern of an accepted format takes a padded numeral exactly, if the text behind it neither goes
on with a digit nor with padding, and what is taken off leaves the numeral.  With zeros for padding
the zero itself is the delicate value: the padding takes it and gives it back.
-/
namespace Stencil.Format
open Regex (Tree CharTest)
open Regex.Parse (oneOf holds_oneOf_iff)
open Kind Numeral

/-- A sign or none and digits of the base, in either letter case. -/
inductive IsNumeral (base : Nat) : Text → Prop
  | plain {ds : Text} (hne : ds ≠ []) (hds : ∀ c ∈ ds, c ∈ digitChars base) : IsNumeral base ds
  | negative {ds : Text} (hne : ds ≠ []) (hds : ∀ c ∈ ds, c ∈ digitChars base) :
    IsNumeral base ('-' :: ds)

section Numeral
variable {base : Nat} {u : Text}

theorem IsNumeral.ne_nil (h : IsNumeral base u) : u ≠ [] := by
  cases h with
  | plain hne => exact hne
  | negative => simp

theorem IsNumeral.getLast?_mem (h : IsNumeral base u) : ∀ c ∈ u.getLast?, c ∈ digitChars base := by
  intro c hc
  cases h with
  | plain hne hds => exact hds c (List.mem_of_getLast? hc)
  | @negative ds hne hds =>
    rw [List.getLast?_cons_of_ne_nil hne] at hc
    exact hds c (List.mem_of_getLast? hc)

theorem isNumeral_numeral (h2 : 2 ≤ base) (h36 : base ≤ 36) (v : Int) :
    IsNumeral base (numeral base v) := by
  have hdigits := spell_digits h2 h36 v.natAbs
  rw [numeral]
  split
  · exact .negative spell_ne_nil hdigits
  · exact .plain spell_ne_nil hdigits

/-- An integer that was read from a sign and digits is read from its own numeral as well. -/
theorem IsNumeral.read_numeral (h : IsNumeral base u) (h2 : 2 ≤ base) (h36 : base ≤ 36) {v : Int}
    (hv : Numeral.read base u = .ok v) : Numeral.read base (numeral base v) = .ok v := by
  cases h with
  | plain hne hds => exact read_numeral_of_read h2 h36 hne hds false hv
  | negative hne hds => exact read_numeral_of_read h2 h36 hne hds true hv

theorem minus_notMem_digitChars (h36 : base ≤ 36) : '-' ∉ digitChars base :=
  fun h => (plain_of_mem_digitChars h36 h).2.2.2.1 rfl

theorem describes_integerTrees_iff :
    (Tree.ofList (integerTrees base)).Describes u ↔ IsNumeral base u := by
  rw [integerTrees, Tree.describes_ofList_cons]
  have hdigits (w : Text) : (Tree.ofList [.chars (oneOf (digitChars base)) 1 none .greedy]).Describes w ↔
      w ≠ [] ∧ ∀ c ∈ w, c ∈ digitChars base := by
    simp [Tree.ofList, Tree.Describes, holds_oneOf_iff, Nat.one_le_iff_ne_zero]
  constructor
  · rintro ⟨sign, ds, rfl, hsign, hds⟩
    obtain ⟨hne, hds⟩ := (hdigits ds).1 hds
    rcases describes_signTree_iff.1 hsign with rfl | rfl
    · exact .plain hne hds
    · exact .negative hne hds
  · intro h
    cases h with
    | plain hne hds => exact ⟨[], u, rfl, describes_signTree_iff.2 (.inl rfl), (hdigits u).2 ⟨hne, hds⟩⟩
    | @negative ds hne hds =>
      exact ⟨['-'], ds, rfl, describes_signTree_iff.2 (.inr rfl), (hdigits ds).2 ⟨hne, hds⟩⟩

theorem isPlain_integerTrees : ∀ t ∈ integerTrees base, t.isPlain = true := by
  simp [integerTrees, signTree, Tree.isPlain]

theorem isPlain_integerPattern (a : Alignment) (base : Nat) :
    (Tree.ofList (a.before ++ integerTrees base ++ a.behind)).isPlain = true :=
  Tree.isPlain_ofList (Alignment.isPlain_around isPlain_integerTrees)

theorem describes_integer_iff (h2 : 2 ≤ base) (h36 : base ≤ 36) :
    (Kind.integer base).describes u = true ↔ IsNumeral base u :=
  (describes_iff (readsTrees_integer h2 h36) isPlain_integerTrees u).trans describes_integerTrees_iff

theorem isNumeral_singleton_iff {c : Char} : IsNumeral base [c] ↔ c ∈ digitChars base := by
  constructor
  · intro h
    exact h.getLast?_mem c rfl
  · intro hc
    exact .plain (by simp) (by simpa using hc)

theorem mayEnd_integer_eq_false_iff (h2 : 2 ≤ base) (h36 : base ≤ 36) {c : Char} :
    (Kind.integer base).mayEnd [c] = false ↔ c ∉ digitChars base := by
  rw [← isNumeral_singleton_iff, ← describes_integer_iff h2 h36, Bool.not_eq_true]
  rfl

theorem mayStart_integer_eq_false_iff (h2 : 2 ≤ base) (h36 : base ≤ 36) {c : Char} :
    (Kind.integer base).mayStart [c] = false ↔ c ≠ '-' ∧ (c ∈ digitChars base → c = '0') := by
  rw [← isNumeral_singleton_iff, ← describes_integer_iff h2 h36, mayStart]
  by_cases hzero : c = '0' <;> simp [hzero]

/-- Zeros in front of them suit integers of every base. -/
theorem accepted_zeroFilled (h2 : 2 ≤ base) (h36 : base ≤ 36) (width : Nat) :
    Accepted ⟨⟨.right, width, '0'⟩, .integer base⟩ := by
  refine accepted_iff.2 ⟨⟨h2, h36⟩, fillFault?_eq_none_iff.2 ⟨nofun, fun _ => ?_⟩⟩
  exact (mayStart_integer_eq_false_iff h2 h36).2 ⟨by simp, fun _ => rfl⟩

end Numeral

section Accepted
variable {a : Alignment} {base : Nat} (h : Accepted ⟨a, .integer base⟩)
include h

theorem fill_notMem_of_padsEnd (hpads : a.kind.padsEnd = true) : a.fill ∉ digitChars base :=
  (mayEnd_integer_eq_false_iff h.inRange.1 h.inRange.2).1 (h.mayEnd_eq_false hpads)

theorem fill_of_padsStart (hpads : a.kind.padsStart = true) :
    a.fill ≠ '-' ∧ (a.fill ∈ digitChars base → a.fill = '0') :=
  (mayStart_integer_eq_false_iff h.inRange.1 h.inRange.2).1 (h.mayStart_eq_false hpads)

/-- A numeral has no fill at a padded end, unless it starts with one of the zeros that it is padded
with. -/
theorem bare_or_zero {u : Text} (hu : IsNumeral base u) :
    a.Bare u ∨ a.kind = .right ∧ a.fill = '0' ∧ u.head? = some '0' ∧
      ∀ c ∈ u, c ∈ digitChars base := by
  have hend : a.kind.padsEnd = true → u.getLast? ≠ some a.fill :=
    fun hpads hlast => fill_notMem_of_padsEnd h hpads (hu.getLast?_mem _ hlast)
  by_cases hstart : a.kind.padsStart = true ∧ u.head? = some a.fill
  · obtain ⟨hpads, hhead⟩ := hstart
    obtain ⟨hminus, hzero⟩ := fill_of_padsStart h hpads
    cases hu with
    | @negative ds _ _ => exact absurd (Option.some.inj hhead).symm hminus
    | plain hne hds =>
      have hmem := hds _ (List.mem_of_head? hhead)
      have hkind : a.kind = .right := by
        cases hkind : a.kind with
        | right => rfl
        | none => simp [hkind] at hpads
        | left => simp [hkind] at hpads
        | center => exact absurd hmem (fill_notMem_of_padsEnd h (by rw [hkind]; rfl))
      exact .inr ⟨hkind, hzero hmem, hzero hmem ▸ hhead, hds⟩
  · exact .inl ⟨fun hpads hhead => hstart ⟨hpads, hhead⟩, hend⟩

end Accepted

section Unpad
variable {a : Alignment} {base : Nat} {u : Text} {m n : Nat}

theorem describes_nil_integer (h2 : 2 ≤ base) (h36 : base ≤ 36) :
    (Kind.integer base).describes [] = false := by
  rw [← Bool.not_eq_true, describes_integer_iff h2 h36]
  exact fun h => h.ne_nil rfl

theorem margin_eq_zero_of_right (hkind : a.kind = .right) (hn : a.kind.padsEnd = false → n = 0) :
    n = 0 := hn (by rw [hkind]; rfl)

/-- A numeral is left of a padded one, though maybe with fewer zeros in front. -/
theorem isNumeral_unpad (h : Accepted ⟨a, .integer base⟩) (hu : IsNumeral base u)
    (hm : a.kind.padsStart = false → m = 0) (hn : a.kind.padsEnd = false → n = 0) :
    IsNumeral base
      (unpad ⟨a, .integer base⟩ (List.replicate m a.fill ++ u ++ List.replicate n a.fill)) := by
  obtain ⟨h2, h36⟩ := h.inRange
  rcases bare_or_zero h hu with hbare | ⟨hkind, hfill, -, hds⟩
  · rwa [unpad_of_bare (f := ⟨a, .integer base⟩) hm hn hu.ne_nil hbare]
  · rw [margin_eq_zero_of_right hkind hn, List.replicate_zero, List.append_nil,
      unpad_right (f := ⟨a, .integer base⟩) hkind (describes_nil_integer h2 h36) hu.ne_nil]
    split
    next => exact isNumeral_singleton_iff.2 (hfill ▸ zero_mem_digitChars h2 h36)
    next hne => exact .plain hne fun c hc => hds c ((List.dropWhile_suffix _).mem hc)

/-- The numeral of an integer is left when its padding is taken off. -/
theorem unpad_numeral (h : Accepted ⟨a, .integer base⟩) (v : Int)
    (hm : a.kind.padsStart = false → m = 0) (hn : a.kind.padsEnd = false → n = 0) :
    unpad ⟨a, .integer base⟩
      (List.replicate m a.fill ++ numeral base v ++ List.replicate n a.fill) = numeral base v := by
  obtain ⟨h2, h36⟩ := h.inRange
  have hu := isNumeral_numeral h2 h36 v
  rcases bare_or_zero h hu with hbare | ⟨hkind, hfill, hhead, -⟩
  · exact unpad_of_bare (f := ⟨a, .integer base⟩) hm hn hu.ne_nil hbare
  · obtain rfl := eq_zero_of_head? h2 h36 hhead
    rw [numeral_zero, margin_eq_zero_of_right hkind hn, List.replicate_zero, List.append_nil,
      unpad_right (f := ⟨a, .integer base⟩) hkind (describes_nil_integer h2 h36) (by simp)]
    change (if ['0'].dropWhile (· == a.fill) = [] then [a.fill] else _) = _
    rw [hfill]
    rfl

end Unpad

section Read
variable {a : Alignment} {base : Nat} (h : Accepted ⟨a, .integer base⟩)
include h

/-- Integers are written as padded numerals. -/
theorem write_integer (hwidth : a.width < Alignment.widthLimit) (v : Int) :
    write ⟨a, .integer base⟩ (.int v) = .ok (a.padded (numeral base v)) := by
  obtain ⟨h2, h36⟩ := h.inRange
  refine bind_eq_ok_iff.2 ⟨numeral base v, ?_, mapError_eq_ok_iff.2 (Alignment.pad_eq_ok hwidth _)⟩
  exact mapError_eq_ok_iff.2 (mapError_eq_ok_iff.2 (write_eq h2 h36 v))

/-- A padded numeral is read as the numeral is. -/
theorem read_padded_of_read_numeral {v : Int} (hv : Numeral.read base (numeral base v) = .ok v) :
    read ⟨a, .integer base⟩ (a.padded (numeral base v)) = .ok (.int v) := by
  obtain ⟨m, n, hpadded, hm, hn⟩ := a.exists_margins (numeral base v)
  have hunpad : unpad ⟨a, .integer base⟩ (a.padded (numeral base v)) = numeral base v := by
    rw [hpadded, unpad_numeral h v hm hn]
  rw [Format.read, hunpad]
  exact map_eq_ok_iff.2 ⟨v, mapError_eq_ok_iff.2 hv, rfl⟩

/-- A padded numeral is read as the integer that was written. -/
theorem read_padded_numeral {v : Int} (hv : v.natAbs < base ^ digitLimit) :
    read ⟨a, .integer base⟩ (a.padded (numeral base v)) = .ok (.int v) := by
  obtain ⟨h2, h36⟩ := h.inRange
  exact read_padded_of_read_numeral h (read_numeral h2 h36 hv)

end Read

section Takes
variable {base : Nat} {u rest : Text}

theorem takes_signTree {sign : Text} (hsign : sign = [] ∨ sign = ['-'])
    (hrest : ∀ c ∈ rest.head?, c ≠ '-') : signTree.Takes sign rest := by
  have hdescribes := describes_signTree_iff.2 hsign
  refine Tree.takes_greedy (Nat.zero_le _)
    (Regex.runLength_append hdescribes.2.2 (fun c hc => ?_) hdescribes.2.1)
  rw [← Bool.not_eq_true, CharTest.holds_literal_iff]
  exact hrest c hc

/-- A numeral is taken in front of a text that does not go on with a digit. -/
theorem takes_integerTrees (h36 : base ≤ 36) (hu : IsNumeral base u)
    (hrest : ∀ c ∈ rest.head?, c ∉ digitChars base) :
    (Tree.ofList (integerTrees base)).Takes u rest := by
  have hdigits {ds : Text} (hne : ds ≠ []) (hds : ∀ c ∈ ds, c ∈ digitChars base) :
      (Tree.ofList [.chars (oneOf (digitChars base)) 1 none .greedy]).Takes ds rest := by
    refine Tree.takes_greedy (List.length_pos_iff.2 hne) (Regex.runLength_append ?_ ?_ nofun)
    · intro c hc
      exact holds_oneOf_iff.2 (hds c hc)
    · intro c hc
      rw [← Bool.not_eq_true, holds_oneOf_iff]
      exact hrest c hc
  have hhead {ds : Text} (hne : ds ≠ []) (hds : ∀ c ∈ ds, c ∈ digitChars base) :
      ∀ c ∈ (ds ++ rest).head?, c ≠ '-' := by
    rintro c hc rfl
    rw [List.head?_append_of_ne_nil _ hne] at hc
    exact minus_notMem_digitChars h36 (hds _ (List.mem_of_head? hc))
  have hsign {sign ds : Text} (hsign : sign = [] ∨ sign = ['-']) (hne : ds ≠ [])
      (hds : ∀ c ∈ ds, c ∈ digitChars base) : (Tree.ofList [signTree]).Takes sign (ds ++ rest) :=
    takes_signTree hsign (hhead hne hds)
  cases hu with
  | plain hne hds => exact (hsign (.inl rfl) hne hds).append (hdigits hne hds)
  | negative hne hds => exact (hsign (.inr rfl) hne hds).append (hdigits hne hds)

/-- A minus sign with a digit behind it. -/
def StartsNegative (base : Nat) (rest : Text) : Prop :=
  ∃ d tail, rest = '-' :: d :: tail ∧ d ∈ digitChars base

theorem first?_integerTrees_eq_none (hdigit : ∀ c ∈ rest.head?, c ∉ digitChars base)
    (hnegative : ¬ StartsNegative base rest) :
    (Tree.ofList (integerTrees base)).first? rest = none := by
  rw [Tree.first?, List.head?_eq_none_iff, List.eq_nil_iff_forall_not_mem]
  intro n hn
  obtain ⟨-, hdescribes⟩ := (Tree.mem_lengths_iff (Tree.isPlain_ofList isPlain_integerTrees)).1 hn
  have hu := describes_integerTrees_iff.1 hdescribes
  have hrest := List.take_append_drop n rest
  generalize rest.take n = u at hu hrest
  cases hu with
  | plain hne hds =>
    obtain ⟨c, t, rfl⟩ := List.exists_cons_of_ne_nil hne
    exact hdigit c (by rw [← hrest]; rfl) (hds c List.mem_cons_self)
  | negative hne hds =>
    obtain ⟨d, t, rfl⟩ := List.exists_cons_of_ne_nil hne
    exact hnegative ⟨d, _, hrest.symm, hds d List.mem_cons_self⟩

/-- What may stand behind a padded numeral. -/
def EndsNumeral (a : Alignment) (base : Nat) (c : Char) : Prop :=
  c ∉ digitChars base ∧ (a.kind.padsEnd = true → c ≠ a.fill) ∧
    (a.kind = .right ∧ a.fill = '0' → c ≠ '-')

/-- A zero with zeros in front of it, which are padding for a negative numeral as well. -/
def RunsOn (a : Alignment) (base : Nat) (v : Int) (rest : Text) : Prop :=
  a.kind = .right ∧ a.fill = '0' ∧ v = 0 ∧ StartsNegative base rest

variable {a : Alignment}

theorem not_runsOn_of_ends (hrest : ∀ c ∈ rest.head?, EndsNumeral a base c) (v : Int) :
    ¬ RunsOn a base v rest := by
  rintro ⟨hkind, hfill, -, d, tail, rfl, -⟩
  exact (hrest '-' rfl).2.2 ⟨hkind, hfill⟩ rfl

/-- Zeros for padding take the numeral of zero as well and give it back, if no numeral starts behind
it. -/
theorem takes_zeros (h2 : 2 ≤ base) (h36 : base ≤ 36) (hkind : a.kind = .right) (hfill : a.fill = '0')
    (m : Nat) (hdigit : ∀ c ∈ rest.head?, c ∉ digitChars base)
    (hnegative : ¬ StartsNegative base rest) :
    (Tree.ofList (a.before ++ integerTrees base ++ a.behind)).Takes
      (List.replicate m a.fill ++ ['0']) rest := by
  have hzero := zero_mem_digitChars h2 h36
  have htrees : a.before ++ integerTrees base ++ a.behind = a.paddingTree :: integerTrees base := by
    simp [Alignment.before, Alignment.behind, hkind]
  have hrun : Regex.runLength (.literal a.fill.toNat false .exact) none
      ((List.replicate m a.fill ++ ['0']) ++ rest) = (List.replicate m a.fill ++ ['0']).length := by
    refine Regex.runLength_append (fun c hc => ?_) (fun c hc => ?_) (by simp)
    · rw [← hfill, ← List.replicate_succ'] at hc
      exact CharTest.holds_literal_iff.2 (List.eq_of_mem_replicate hc)
    · rw [← Bool.not_eq_true, CharTest.holds_literal_iff, hfill]
      rintro rfl
      exact hdigit _ hc hzero
  rw [htrees, Tree.takes_ofList_cons]
  refine Tree.takes_cat_greedy_back (Nat.zero_le _) ?_
    (first?_integerTrees_eq_none hdigit hnegative) ?_
  · rwa [List.append_assoc, List.length_append, List.length_singleton] at hrun
  · exact takes_integerTrees h36 (isNumeral_singleton_iff.2 hzero) hdigit

/-- The pattern takes a padded numeral. -/
theorem takes_padded_numeral (h : Accepted ⟨a, .integer base⟩) {v : Int}
    (hdigit : ∀ c ∈ rest.head?, c ∉ digitChars base)
    (hfill : a.kind.padsEnd = true → ∀ c ∈ rest.head?, c ≠ a.fill) (hrest : ¬ RunsOn a base v rest) :
    (Tree.ofList (a.before ++ integerTrees base ++ a.behind)).Takes (a.padded (numeral base v))
      rest := by
  obtain ⟨h2, h36⟩ := h.inRange
  have hu := isNumeral_numeral h2 h36 v
  obtain ⟨m, n, hpadded, hm, hn⟩ := a.exists_margins (numeral base v)
  rw [hpadded]
  rcases bare_or_zero h hu with hbare | ⟨hkind, hzero, hhead, -⟩
  · refine Alignment.takes_around hm hn hu.ne_nil hbare.1 ?_ hfill
    refine takes_integerTrees h36 hu fun c hc => ?_
    rw [List.head?_append, Option.mem_def, Option.or_eq_some_iff] at hc
    rcases hc with hc | ⟨-, hc⟩
    · have hpads : a.kind.padsEnd = true := by
        by_contra hpads
        rw [hn (Bool.not_eq_true _ ▸ hpads)] at hc
        cases hc
      rw [List.eq_of_mem_replicate (List.mem_of_head? hc)]
      exact fill_notMem_of_padsEnd h hpads
    · exact hdigit c hc
  · obtain rfl := eq_zero_of_head? h2 h36 hhead
    rw [numeral_zero, margin_eq_zero_of_right hkind hn, List.replicate_zero, List.append_nil]
    exact takes_zeros h2 h36 hkind hzero m hdigit fun hnegative =>
      hrest ⟨hkind, hzero, rfl, hnegative⟩

end Takes

end Stencil.Format
