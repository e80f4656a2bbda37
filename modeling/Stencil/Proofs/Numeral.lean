import Stencil.Conversion
import Stencil.Proofs.Outcome

/-! # Numerals denote what was written

An integer is written with the digits of its positional notation, the first one not zero unless it is
the only one.  A sign and digits of a base, in either letter case, are read as the integer with these
digits.
-/
namespace Stencil.Numeral

/-- The digits of a base in either letter case. -/
def digitChars (base : Nat) : Text :=
  alphabet.take base ++ (alphabet.take base).map Text.asciiUpper

/-- The character that a digit is written with. -/
def digitChar (d : Nat) : Char := (alphabet[d]?).getD '0'

/-- The numeral of a natural number. -/
def spell (base n : Nat) : Text :=
  if n = 0 then ['0'] else (Nat.digits base n).reverse.map digitChar

/-- The numeral of an integer. -/
def numeral (base : Nat) (v : Int) : Text :=
  (if v < 0 then ['-'] else []) ++ spell base v.natAbs

section Characters
variable {base : Nat} {c : Char}

theorem digitValue_digitChar : ∀ d < 36, digitValue (digitChar d) = some d ∧
    digitValue (Text.asciiUpper (digitChar d)) = some d := by
  decide

theorem alphabet_getElem? : ∀ d < 36, alphabet[d]? = some (digitChar d) := by decide

theorem mem_alphabet_take_iff (hbase : base ≤ 36) :
    c ∈ alphabet.take base ↔ ∃ d < base, c = digitChar d := by
  rw [List.mem_take_iff_getElem]
  constructor
  · rintro ⟨d, hd, rfl⟩
    have hlt : d < 36 := by omega
    have hget := alphabet_getElem? d hlt
    rw [List.getElem?_eq_getElem (by omega)] at hget
    exact ⟨d, by omega, Option.some.inj hget⟩
  · rintro ⟨d, hd, rfl⟩
    have hget := alphabet_getElem? d (by omega)
    obtain ⟨hlt, heq⟩ := List.getElem?_eq_some_iff.1 hget
    exact ⟨d, by omega, heq⟩

theorem digitValue_of_mem_digitChars (hbase : base ≤ 36) (hc : c ∈ digitChars base) :
    ∃ d < base, digitValue c = some d := by
  rcases List.mem_append.1 hc with hc | hc
  · obtain ⟨d, hd, rfl⟩ := (mem_alphabet_take_iff hbase).1 hc
    exact ⟨d, hd, (digitValue_digitChar d (by omega)).1⟩
  · obtain ⟨l, hl, rfl⟩ := List.mem_map.1 hc
    obtain ⟨d, hd, rfl⟩ := (mem_alphabet_take_iff hbase).1 hl
    exact ⟨d, hd, (digitValue_digitChar d (by omega)).2⟩

theorem digitChars_subset (hbase : base ≤ 36) : digitChars base ⊆ digitChars 36 := by
  have htake : alphabet.take base ⊆ alphabet.take 36 := List.take_subset_take_left _ hbase
  intro c hc
  rcases List.mem_append.1 hc with hc | hc
  · exact List.mem_append_left _ (htake hc)
  · obtain ⟨l, hl, rfl⟩ := List.mem_map.1 hc
    exact List.mem_append_right _ (List.mem_map_of_mem (htake hl))

theorem zero_mem_digitChars (h2 : 2 ≤ base) (h36 : base ≤ 36) : '0' ∈ digitChars base :=
  List.mem_append_left _ ((mem_alphabet_take_iff h36).2 ⟨0, by omega, rfl⟩)

end Characters

/-- Zeros in front of digits do not count. -/
theorem positional_replicate_zero_append (base k : Nat) (ns : List Nat) :
    positional base (List.replicate k 0 ++ ns) = positional base ns := by
  induction k with
  | zero => rfl
  | succ k ih =>
    rw [← ih, List.replicate_succ, List.cons_append, positional, List.foldl_cons, Nat.zero_mul,
      Nat.zero_add]
    rfl

theorem positional_zeros_append (base k : Nat) (u : Text) :
    positional base ((List.replicate k '0' ++ u).filterMap digitValue) =
      positional base (u.filterMap digitValue) := by
  rw [List.filterMap_append, List.filterMap_replicate_of_some (show digitValue '0' = some 0 from rfl),
    positional_replicate_zero_append]

section Write
variable {base n : Nat}

theorem mem_spell (h2 : 2 ≤ base) (h36 : base ≤ 36) {c : Char} (hc : c ∈ spell base n) :
    c ∈ alphabet.take base := by
  rw [mem_alphabet_take_iff h36]
  rw [spell] at hc
  split at hc
  next =>
    obtain rfl := List.mem_singleton.1 hc
    exact ⟨0, by omega, rfl⟩
  next =>
    obtain ⟨d, hd, rfl⟩ := List.mem_map.1 hc
    exact ⟨d, Nat.digits_lt_base h2 (List.mem_reverse.1 hd), rfl⟩

theorem spell_digits (h2 : 2 ≤ base) (h36 : base ≤ 36) (n : Nat) : ∀ c ∈ spell base n, c ∈ digitChars base :=
  fun _ hc => List.mem_append_left _ (mem_spell h2 h36 hc)

theorem spell_ne_nil : spell base n ≠ [] := by
  rw [spell]
  split
  next => simp
  next h => simpa using Nat.digits_ne_nil_iff_ne_zero.2 h

theorem length_spell_le (h2 : 2 ≤ base) {k : Nat} (hk : 0 < k) (hn : n < base ^ k) :
    (spell base n).length ≤ k := by
  rw [spell]
  split
  next => exact hk
  next => simpa using (Nat.digits_length_le_iff h2 n).2 hn

theorem head?_spell (h2 : 2 ≤ base) (h36 : base ≤ 36) (hn : n ≠ 0) :
    (spell base n).head? ≠ some '0' := by
  rw [spell, if_neg hn, List.head?_map, List.head?_reverse]
  intro h
  obtain ⟨d, hd, heq⟩ := Option.map_eq_some_iff.1 h
  have hne : Nat.digits base n ≠ [] := Nat.digits_ne_nil_iff_ne_zero.2 hn
  rw [List.getLast?_eq_some_getLast hne, Option.some.injEq] at hd
  have hlt : d < base := Nat.digits_lt_base h2 (hd ▸ List.getLast_mem hne)
  have hvalue := (digitValue_digitChar d (by omega)).1
  rw [heq] at hvalue
  obtain rfl : 0 = d := Option.some.inj hvalue
  exact Nat.getLast_digit_ne_zero base hn hd

theorem filterMap_digitValue_spell (h2 : 2 ≤ base) (h36 : base ≤ 36) (hn : n ≠ 0) :
    (spell base n).filterMap digitValue = (Nat.digits base n).reverse := by
  rw [spell, if_neg hn, List.filterMap_map]
  have hsome : ∀ d ∈ (Nat.digits base n).reverse, (digitValue ∘ digitChar) d = some d := by
    intro d hd
    have hlt := Nat.digits_lt_base h2 (List.mem_reverse.1 hd)
    exact (digitValue_digitChar d (by omega)).1
  rw [List.filterMap_congr hsome, List.filterMap_some]

theorem positional_reverse (base : Nat) (ds : List Nat) :
    positional base ds.reverse = Nat.ofDigits base ds := by
  rw [positional, List.foldl_reverse, Nat.ofDigits_eq_foldr]
  simp only [Nat.cast_id, Nat.mul_comm base, Nat.add_comm]

theorem positional_spell (h2 : 2 ≤ base) (h36 : base ≤ 36) (n : Nat) :
    positional base ((spell base n).filterMap digitValue) = n := by
  by_cases hn : n = 0
  · subst hn
    change 0 * base + 0 = 0
    omega
  · rw [filterMap_digitValue_spell h2 h36 hn, positional_reverse, Nat.ofDigits_digits]

theorem spell_of_lt (h : n < base) : spell base n = [digitChar n] := by
  rw [spell]
  split
  next hn =>
    subst hn
    rfl
  next hn => simp [Nat.digits_of_lt base n hn h]

theorem spell_of_le (h2 : 2 ≤ base) (h : base ≤ n) :
    spell base n = spell base (n / base) ++ [digitChar (n % base)] := by
  have hpos : 0 < n := by omega
  have hdiv : n / base ≠ 0 := (Nat.div_pos h (by omega)).ne'
  rw [spell, spell, if_neg hpos.ne', if_neg hdiv, Nat.digits_def' h2 hpos]
  simp

/-- Repeated division finds the digits of the positional notation. -/
theorem digits_eq (h2 : 2 ≤ base) (h36 : base ≤ 36) (n : Nat) :
    digits base n = .ok (spell base n) := by
  induction n using Nat.strong_induction_on with
  | _ n ih =>
    have hbase : (base : Int) ≠ 0 := by omega
    have hmod : ((n : Int).fmod base) = ((n % base : Nat) : Int) := by
      rw [Int.fmod_eq_emod_of_nonneg _ (by omega)]
      rfl
    have hdiv : ((n : Int).fdiv base) = ((n / base : Nat) : Int) := by
      rw [Int.fdiv_eq_ediv_of_nonneg _ (by omega)]
      rfl
    have hlt : n % base < 36 := (Nat.mod_lt n (by omega)).trans_le h36
    rw [digits, if_neg hbase, hmod, getSigned_natCast, alphabet_getElem? _ hlt, hdiv]
    dsimp only
    rcases Nat.lt_or_ge n base with h | h
    · rw [if_pos (by rw [Nat.div_eq_of_lt h]; rfl), spell_of_lt h, Nat.mod_eq_of_lt h]
    · have hquot : n / base < n := Nat.div_lt_self (by omega) h2
      have hpos : 0 < n / base := Nat.div_pos h (by omega)
      have hleft : left ((n / base : Nat) : Int) < left (n : Int) := by
        simp only [left]
        split <;> split <;> omega
      rw [if_neg (by omega), dif_pos hleft, ih _ hquot, spell_of_le h2 h]
      rfl

theorem write_eq (h2 : 2 ≤ base) (h36 : base ≤ 36) (v : Int) :
    write base v = .ok (numeral base v) := by
  rw [write, numeral]
  split
  next h =>
    have habs : -v = (v.natAbs : Int) := by omega
    rw [habs, digits_eq h2 h36]
    rfl
  next h =>
    have habs : v = (v.natAbs : Int) := by omega
    rw [habs, digits_eq h2 h36, Int.natAbs_natCast]
    rfl

end Write

/-- Only the numeral of zero starts with a zero. -/
theorem eq_zero_of_head? {base : Nat} (h2 : 2 ≤ base) (h36 : base ≤ 36) {v : Int}
    (hv : (numeral base v).head? = some '0') : v = 0 := by
  rw [numeral] at hv
  split at hv
  next => cases hv
  next =>
    by_contra hne
    exact head?_spell h2 h36 (Int.natAbs_ne_zero.2 hne) hv

theorem numeral_zero (base : Nat) : numeral base 0 = ['0'] := rfl

section Read
variable {base : Nat} {c : Char} {ds : Text}

/-- Digits stand for themselves in a numeral. -/
theorem plain_of_mem_digitChars (hbase : base ≤ 36) (hc : c ∈ digitChars base) :
    toAscii c = c ∧ isAsciiBlank c = false ∧ c ≠ '_' ∧ c ≠ '-' ∧ c ≠ '+' := by
  have hall : ((digitChars 36).all fun c =>
      toAscii c = c ∧ isAsciiBlank c = false ∧ c ≠ '_' ∧ c ≠ '-' ∧ c ≠ '+') = true := by
    decide +kernel
  simpa using List.all_eq_true.1 hall c (digitChars_subset hbase hc)

theorem digitsOf_eq (hbase : base ≤ 36) (hds : ∀ c ∈ ds, c ∈ digitChars base) :
    digitsOf base false ds = some (ds.filterMap digitValue, []) := by
  induction ds with
  | nil => rfl
  | cons c ds ih =>
    have hc := hds c List.mem_cons_self
    obtain ⟨d, hd, hvalue⟩ := digitValue_of_mem_digitChars hbase hc
    obtain ⟨-, -, hne, -⟩ := plain_of_mem_digitChars hbase hc
    rw [digitsOf, if_neg hne, hvalue, Option.filter_some_pos (by simpa using hd),
      ih fun e he => hds e (List.mem_cons_of_mem c he), List.filterMap_cons_some hvalue]
    rfl

/-- The mark of a base is no digit of it. -/
theorem dropBaseMark_eq (hds : ∀ c ∈ ds, c ∈ digitChars base) :
    dropBaseMark base ds = ds := by
  have hmark : ([2, 8, 16].all fun b => (digitChars b).all fun c =>
      some (Text.asciiLower c) ≠ baseMark b) = true := by
    decide +kernel
  rw [dropBaseMark.eq_def]
  split
  next c rest =>
    have hc : c ∈ digitChars base := hds c (by simp)
    have hne : some (Text.asciiLower c) ≠ baseMark base := by
      by_cases hb : base ∈ [2, 8, 16]
      · simpa using List.all_eq_true.1 (List.all_eq_true.1 hmark base hb) c hc
      · simp only [List.mem_cons, List.not_mem_nil, or_false, not_or] at hb
        simp [baseMark, hb]
    rw [if_neg hne]
  next => rfl

theorem length_filterMap_digitValue (hbase : base ≤ 36) (hds : ∀ c ∈ ds, c ∈ digitChars base) :
    (ds.filterMap digitValue).length = ds.length := by
  rw [List.length_filterMap_eq_countP, List.countP_eq_length]
  intro c hc
  obtain ⟨d, -, hvalue⟩ := digitValue_of_mem_digitChars hbase (hds c hc)
  rw [hvalue]
  rfl

/-- Digits are read as their positional value, unless they are too many for their base. -/
theorem readUnsigned_eq_ite (hbase : base ≤ 36) (hne : ds ≠ []) (hds : ∀ c ∈ ds, c ∈ digitChars base) :
    readUnsigned base ds =
      if !isPowerOfTwo base && decide (digitLimit < ds.length) then .error (.tooLong ds.length)
      else .ok (positional base (ds.filterMap digitValue)) := by
  have hhead : ds.head? ≠ some '_' := by
    intro h
    obtain ⟨-, -, hunderscore, -⟩ := plain_of_mem_digitChars hbase (hds _ (List.mem_of_head? h))
    exact hunderscore rfl
  have hcount := length_filterMap_digitValue hbase hds
  have hnil : (ds.filterMap digitValue).isEmpty = false := by
    rw [List.isEmpty_eq_false_iff, ← List.length_pos_iff, hcount]
    exact List.length_pos_iff.2 hne
  rw [readUnsigned, if_neg hhead, digitsOf_eq hbase hds]
  simp [hnil, hcount]

theorem readUnsigned_eq (hbase : base ≤ 36) (hne : ds ≠ []) (hlength : ds.length ≤ digitLimit)
    (hds : ∀ c ∈ ds, c ∈ digitChars base) :
    readUnsigned base ds = .ok (positional base (ds.filterMap digitValue)) := by
  rw [readUnsigned_eq_ite hbase hne hds, decide_eq_false (Nat.not_lt.2 hlength), Bool.and_false]
  rfl

/-- A sign changes the integer that the digits behind it are read as, and nothing else. -/
theorem read_signed (hbase : base ≤ 36) (hne : ds ≠ []) (hds : ∀ c ∈ ds, c ∈ digitChars base)
    (negative : Bool) :
    read base ((if negative then ['-'] else []) ++ ds) =
      (readUnsigned base ds).map fun n : Nat => if negative then -(n : Int) else n := by
  have hascii : ds.map toAscii = ds := by
    conv_rhs => rw [← List.map_id ds]
    exact List.map_congr_left fun c hc => (plain_of_mem_digitChars hbase (hds c hc)).1
  cases negative with
  | true =>
    have hmap : (['-'] ++ ds).map toAscii = '-' :: ds := by rw [List.map_append, hascii]; rfl
    rw [read, if_pos rfl, hmap, List.dropWhile_cons_of_neg (by decide), takeSign]
    dsimp only
    rw [dropBaseMark_eq hds]
    cases readUnsigned base ds <;> rfl
  | false =>
    obtain ⟨c, rest, rfl⟩ := List.exists_cons_of_ne_nil hne
    obtain ⟨-, hblank, -, hminus, hplus⟩ :=
      plain_of_mem_digitChars hbase (hds c List.mem_cons_self)
    have hsign : takeSign (c :: rest) = (false, c :: rest) := by
      rw [takeSign.eq_def]
      split <;> simp_all
    rw [read, if_neg (by decide), List.nil_append, hascii,
      List.dropWhile_cons_of_neg (by simp [hblank]), hsign]
    dsimp only
    rw [dropBaseMark_eq hds]
    cases readUnsigned base (c :: rest) <;> rfl

/-- A sign and digits are read as the integer that they denote. -/
theorem read_eq (hbase : base ≤ 36) (hne : ds ≠ []) (hlength : ds.length ≤ digitLimit)
    (hds : ∀ c ∈ ds, c ∈ digitChars base) (negative : Bool) :
    read base ((if negative then ['-'] else []) ++ ds) =
      .ok (if negative then -(positional base (ds.filterMap digitValue) : Int)
        else positional base (ds.filterMap digitValue)) := by
  rw [read_signed hbase hne hds, readUnsigned_eq hbase hne hlength hds]
  rfl

theorem positional_lt (h2 : 2 ≤ base) (h36 : base ≤ 36) (hds : ∀ c ∈ ds, c ∈ digitChars base) :
    positional base (ds.filterMap digitValue) < base ^ ds.length := by
  have hsmall : ∀ n ∈ (ds.filterMap digitValue).reverse, n < base := by
    intro n hn
    obtain ⟨c, hc, hvalue⟩ := List.mem_filterMap.1 (List.mem_reverse.1 hn)
    obtain ⟨d, hd, heq⟩ := digitValue_of_mem_digitChars h36 (hds c hc)
    rwa [Option.some.inj (hvalue.symm.trans heq)]
  have hlt := Nat.ofDigits_lt_base_pow_length h2 hsmall
  rwa [← positional_reverse, List.reverse_reverse, List.length_reverse,
    length_filterMap_digitValue h36 hds] at hlt

end Read

section Written
variable {base : Nat}

/-- The digits of a numeral are read as the magnitude of the integer. -/
theorem read_numeral_of_readUnsigned (h2 : 2 ≤ base) (h36 : base ≤ 36) {v : Int}
    (h : readUnsigned base (spell base v.natAbs) = .ok v.natAbs) :
    read base (numeral base v) = .ok v := by
  have hread := read_signed h36 spell_ne_nil (spell_digits h2 h36 v.natAbs) (decide (v < 0))
  simp only [decide_eq_true_eq, h] at hread
  rw [numeral, hread, map_eq_ok_iff]
  refine ⟨v.natAbs, rfl, ?_⟩
  split <;> omega

/-- The numeral of an integer is read as this integer, unless it is too long to be read. -/
theorem read_numeral (h2 : 2 ≤ base) (h36 : base ≤ 36) {v : Int} (hv : v.natAbs < base ^ digitLimit) :
    read base (numeral base v) = .ok v := by
  have hlength := length_spell_le h2 (by decide) hv
  apply read_numeral_of_readUnsigned h2 h36
  rw [readUnsigned_eq h36 spell_ne_nil hlength (spell_digits h2 h36 _), positional_spell h2 h36]

/-- An integer that was read from a sign and digits is read from its numeral as well, which has no more
digits. -/
theorem read_numeral_of_read (h2 : 2 ≤ base) (h36 : base ≤ 36) {ds : Text} (hne : ds ≠ [])
    (hds : ∀ c ∈ ds, c ∈ digitChars base) (negative : Bool) {v : Int}
    (h : read base ((if negative then ['-'] else []) ++ ds) = .ok v) :
    read base (numeral base v) = .ok v := by
  rw [read_signed h36 hne hds, map_eq_ok_iff] at h
  obtain ⟨n, hn, hv⟩ := h
  obtain rfl : n = v.natAbs := by
    rw [← hv]
    split <;> omega
  rw [readUnsigned_eq_ite h36 hne hds] at hn
  split at hn
  next => cases hn
  next hshort =>
    have hvalue := Except.ok.inj hn
    have hlength : (spell base v.natAbs).length ≤ ds.length :=
      length_spell_le h2 (List.length_pos_iff.2 hne) (hvalue ▸ positional_lt h2 h36 hds)
    apply read_numeral_of_readUnsigned h2 h36
    rw [readUnsigned_eq_ite h36 spell_ne_nil (spell_digits h2 h36 _), positional_spell h2 h36, if_neg]
    simp only [Bool.and_eq_true, decide_eq_true_eq, not_and] at hshort ⊢
    intro hbase
    have hle := hshort hbase
    omega

end Written

end Stencil.Numeral
