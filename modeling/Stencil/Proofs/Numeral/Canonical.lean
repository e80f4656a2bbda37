import Stencil.Proofs.Numeral

/-! # Canonical numerals

The numerals that are written have a sign only for a negative integer and no zero in front of other
digits.  Each integer has one such numeral, and each such numeral is the one of the integer that it
denotes.
-/
namespace Stencil.Numeral

/-- The positional value of digits: each counts for its place in the alphabet, `base` times as much as
in the place behind it. -/
def magnitude (base : Nat) (ds : Text) : Nat := Nat.ofDigits base (ds.reverse.map alphabet.idxOf)

/-- The integer that a numeral denotes. -/
def denoted (base : Nat) : Text → Int
  | '-' :: ds => -magnitude base ds
  | ds => magnitude base ds

/-- The numeral has an optional sign and digits of the base, and a zero comes first only in `0`. -/
def Canonical (base : Nat) (text : Text) : Prop :=
  ∃ (negative : Bool) (ds : Text), text = (if negative then ['-'] else []) ++ ds ∧ ds ≠ [] ∧
    (∀ c ∈ ds, c ∈ alphabet.take base) ∧ (ds.head? = some '0' → text = ['0'])

theorem idxOf_digitChar : ∀ d < 36, alphabet.idxOf (digitChar d) = d := by decide

section Digits
variable {base : Nat} {ds : Text}

theorem idxOf_of_mem (h36 : base ≤ 36) {c : Char} (hc : c ∈ alphabet.take base) :
    alphabet.idxOf c < base ∧ digitChar (alphabet.idxOf c) = c := by
  obtain ⟨d, hd, rfl⟩ := (mem_alphabet_take_iff h36).1 hc
  rw [idxOf_digitChar d (by omega)]
  exact ⟨hd, rfl⟩

theorem ne_minus_of_mem (h36 : base ≤ 36) {c : Char} (hc : c ∈ alphabet.take base) : c ≠ '-' := by
  obtain ⟨-, -, -, hminus, -⟩ := plain_of_mem_digitChars h36 (List.mem_append_left _ hc)
  exact hminus

theorem magnitude_zero (base : Nat) : magnitude base ['0'] = 0 := by
  have hzero : alphabet.idxOf '0' = 0 := idxOf_digitChar 0 (by decide)
  simp [magnitude, hzero]

theorem magnitude_spell (h2 : 2 ≤ base) (h36 : base ≤ 36) (n : Nat) :
    magnitude base (spell base n) = n := by
  by_cases hn : n = 0
  · subst hn
    exact magnitude_zero base
  · have hdigit : ∀ d ∈ Nat.digits base n, (alphabet.idxOf ∘ digitChar) d = d := by
      intro d hd
      have hlt := Nat.digits_lt_base h2 hd
      exact idxOf_digitChar d (by omega)
    rw [magnitude, spell, if_neg hn, ← List.map_reverse, List.reverse_reverse, List.map_map,
      List.map_congr_left hdigit, List.map_id', Nat.ofDigits_digits]

/-- The digits of the positional value are the given ones, unless a zero comes first. -/
theorem digits_magnitude (h2 : 2 ≤ base) (h36 : base ≤ 36)
    (hds : ∀ c ∈ ds, c ∈ alphabet.take base) (hhead : ds.head? ≠ some '0') :
    Nat.digits base (magnitude base ds) = ds.reverse.map alphabet.idxOf := by
  apply Nat.digits_ofDigits base h2
  · intro d hd
    obtain ⟨c, hc, rfl⟩ := List.mem_map.1 hd
    exact (idxOf_of_mem h36 (hds c (List.mem_reverse.1 hc))).1
  · -- the last one of the digits, from the least on, is the first one of the numeral
    intro hne hlast
    cases ds with
    | nil => exact hne rfl
    | cons c rest =>
      have hc := (idxOf_of_mem h36 (hds c List.mem_cons_self)).2
      simp only [List.reverse_cons, List.map_append, List.map_cons, List.map_nil,
        List.getLast_append_singleton] at hlast
      rw [hlast] at hc
      exact hhead (congrArg some hc.symm)

theorem magnitude_ne_zero (h2 : 2 ≤ base) (h36 : base ≤ 36) (hne : ds ≠ [])
    (hds : ∀ c ∈ ds, c ∈ alphabet.take base) (hhead : ds.head? ≠ some '0') :
    magnitude base ds ≠ 0 := by
  have hdigits := digits_magnitude h2 h36 hds hhead
  intro h
  rw [h, Nat.digits_zero] at hdigits
  simp [hne] at hdigits

/-- Digits without a zero in front are those that their positional value is written with. -/
theorem spell_magnitude (h2 : 2 ≤ base) (h36 : base ≤ 36) (hne : ds ≠ [])
    (hds : ∀ c ∈ ds, c ∈ alphabet.take base) (hhead : ds.head? ≠ some '0') :
    spell base (magnitude base ds) = ds := by
  have hchar : ∀ c ∈ ds, (digitChar ∘ alphabet.idxOf) c = c :=
    fun c hc => (idxOf_of_mem h36 (hds c hc)).2
  rw [spell, if_neg (magnitude_ne_zero h2 h36 hne hds hhead), digits_magnitude h2 h36 hds hhead,
    ← List.map_reverse, List.reverse_reverse, List.map_map, List.map_congr_left hchar, List.map_id']

theorem denoted_signed (h36 : base ≤ 36) (hne : ds ≠ []) (hds : ∀ c ∈ ds, c ∈ alphabet.take base)
    (negative : Bool) :
    denoted base ((if negative then ['-'] else []) ++ ds) =
      if negative then -(magnitude base ds : Int) else magnitude base ds := by
  cases negative with
  | true => rfl
  | false =>
    obtain ⟨c, rest, rfl⟩ := List.exists_cons_of_ne_nil hne
    have hminus := ne_minus_of_mem h36 (hds c List.mem_cons_self)
    simp [denoted, hminus]

end Digits

section Numerals
variable {base : Nat} (h2 : 2 ≤ base) (h36 : base ≤ 36)
include h2 h36

theorem canonical_numeral (v : Int) : Canonical base (numeral base v) := by
  refine ⟨decide (v < 0), spell base v.natAbs, by simp [numeral], spell_ne_nil,
    fun c hc => mem_spell h2 h36 hc, fun hzero => ?_⟩
  by_cases hv : v.natAbs = 0
  · obtain rfl := Int.natAbs_eq_zero.1 hv
    exact numeral_zero base
  · exact absurd hzero (head?_spell h2 h36 hv)

theorem head?_numeral (v : Int) : (numeral base v).head? = some '-' ↔ v < 0 := by
  by_cases hv : v < 0
  · simp [numeral, hv]
  · obtain ⟨c, rest, hspell⟩ : ∃ c rest, spell base v.natAbs = c :: rest :=
      List.exists_cons_of_ne_nil spell_ne_nil
    have hc : c ∈ spell base v.natAbs := by simp [hspell]
    have hminus := ne_minus_of_mem h36 (mem_spell h2 h36 hc)
    simp [numeral, hv, hspell, hminus]

theorem denoted_numeral (v : Int) : denoted base (numeral base v) = v := by
  have hdigits : ∀ c ∈ spell base v.natAbs, c ∈ alphabet.take base := fun _ hc => mem_spell h2 h36 hc
  have hsigned := denoted_signed h36 spell_ne_nil hdigits (decide (v < 0))
  simp only [decide_eq_true_eq, magnitude_spell h2 h36] at hsigned
  rw [numeral, hsigned]
  split <;> omega

/-- A canonical numeral is the one of the integer that it denotes. -/
theorem numeral_denoted {text : Text} (h : Canonical base text) :
    numeral base (denoted base text) = text := by
  obtain ⟨negative, ds, rfl, hne, hds, hzero⟩ := h
  rw [denoted_signed h36 hne hds]
  by_cases hhead : ds.head? = some '0'
  · rw [hzero hhead]
    cases negative with
    | false =>
      obtain rfl : ds = ['0'] := hzero hhead
      rw [magnitude_zero]
      rfl
    | true => cases hzero hhead
  · have hspell := spell_magnitude h2 h36 hne hds hhead
    have hpos := Nat.pos_of_ne_zero (magnitude_ne_zero h2 h36 hne hds hhead)
    cases negative with
    | false => simp [numeral, hspell]
    | true => simp [numeral, hspell, hpos]

end Numerals

/-- Writing an integer in a base from 2 to 36 gives a canonical numeral that denotes it, with a sign
exactly if it is negative; and each canonical numeral is what is written for the integer that it
denotes. -/
theorem write_canonical (base : Nat) (h2 : 2 ≤ base) (h36 : base ≤ 36) :
    (∀ v : Int, ∃ text, write base v = .ok text ∧ Canonical base text ∧
      (text.head? = some '-' ↔ v < 0) ∧ denoted base text = v) ∧
    ∀ text, Canonical base text → write base (denoted base text) = .ok text := by
  constructor
  · intro v
    exact ⟨numeral base v, write_eq h2 h36 v, canonical_numeral h2 h36 v, head?_numeral h2 h36 v,
      denoted_numeral h2 h36 v⟩
  · intro text h
    rw [write_eq h2 h36, numeral_denoted h2 h36 h]

/-- A negative numeral with the greatest digits of the greatest base. -/
theorem write_canonical_letters :
    2 ≤ 36 ∧ 36 ≤ 36 ∧ Canonical 36 "-zz".toList ∧ write (36 : Nat) (-1295) = .ok "-zz".toList := by
  have hz : 'z' ∈ alphabet.take 36 := by decide
  have hdigits : ∀ c ∈ "zz".toList, c ∈ alphabet.take 36 :=
    List.forall_mem_cons.2 ⟨hz, List.forall_mem_singleton.2 hz⟩
  have hcanonical : Canonical 36 "-zz".toList :=
    ⟨true, "zz".toList, by decide, by decide, hdigits, by decide⟩
  have hdenoted : denoted 36 "-zz".toList = -1295 := by cbv
  refine ⟨by decide, by decide, hcanonical, ?_⟩
  rw [← hdenoted]
  exact (write_canonical 36 (by decide) (by decide)).2 _ hcanonical

end Stencil.Numeral
