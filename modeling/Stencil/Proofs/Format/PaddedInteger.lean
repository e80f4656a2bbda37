import Stencil.Proofs.Format.Delimited

/-! # Integers in their padding

An accepted format reads back the integers that it wrote.  Its pattern finds them again in front of
text that neither goes on with a digit nor with padding, but for one case: zeros for padding and a
zero behind them are also the padding of a negative numeral that follows.  The check of the fill is
exact: it refuses a fill precisely if some numeral would be read differently in its padding.
-/
namespace Stencil.Format
open Regex (Tree)
open Kind Numeral

variable {a : Alignment} {base : Nat}

/-- Hexadecimal integers with zeros in front of them. -/
def zeroFilledHex : Format := ⟨⟨.right, 6, '0'⟩, .integer 16⟩

theorem accepted_zeroFilledHex : zeroFilledHex.Accepted :=
  accepted_zeroFilled (by decide) (by decide) 6

/-- An accepted format of integers reads back what it wrote, unless the integer is too long to be
read. -/
theorem read_write_integer (a : Alignment) (base : Nat) (v : Int)
    (haccepted : Accepted ⟨a, .integer base⟩) (hwidth : a.width < Alignment.widthLimit)
    (hv : v.natAbs < base ^ digitLimit) :
    ∃ t, write ⟨a, .integer base⟩ (.int v) = .ok t ∧
      read ⟨a, .integer base⟩ t = .ok (.int v) :=
  ⟨a.padded (numeral base v), write_integer haccepted hwidth v, read_padded_numeral haccepted hv⟩

/-- The integer is written `00-fff`, so that the padding stands in front of the sign. -/
theorem read_write_integer_hex :
    zeroFilledHex.Accepted ∧ zeroFilledHex.alignment.width < Alignment.widthLimit ∧
      (-4095 : Int).natAbs < 16 ^ digitLimit ∧
        ∃ t, zeroFilledHex.write (.int (-4095)) = .ok t ∧
          zeroFilledHex.read t = .ok (.int (-4095)) :=
  have hwidth : zeroFilledHex.alignment.width < Alignment.widthLimit := by decide +kernel
  have hv : (-4095 : Int).natAbs < 16 ^ digitLimit :=
    (by decide : 4095 < 16 ^ 3).trans_le (Nat.pow_le_pow_right (by decide) (by decide))
  ⟨accepted_zeroFilledHex, hwidth, hv, read_write_integer _ 16 _ accepted_zeroFilledHex hwidth hv⟩

section Match
variable {rest : Text} {v : Int}

/-- A zero in its padding and the negative numeral behind it are taken together. -/
theorem exists_takes_of_runsOn (h : Accepted ⟨a, .integer base⟩) (hrest : RunsOn a base v rest) :
    ∃ u w, u ≠ [] ∧ rest = u ++ w ∧
      (Tree.ofList (a.before ++ integerTrees base ++ a.behind)).Takes
        (a.padded (numeral base v) ++ u) w := by
  obtain ⟨hkind, hfill, rfl, d, tail, rfl, hd⟩ := hrest
  obtain ⟨h2, h36⟩ := h.inRange
  obtain ⟨m, n, hpadded, -, hn⟩ := a.exists_margins (numeral base 0)
  obtain ⟨ds, w, hsplit, hds, hstop⟩ :=
    Text.exists_run (fun c => decide (c ∈ digitChars base)) (d :: tail)
  simp only [decide_eq_true_eq, decide_eq_false_iff_not] at hds hstop
  have hne : ds ≠ [] := by
    rintro rfl
    rw [List.nil_append] at hsplit
    exact hstop d (by rw [← hsplit]; rfl) hd
  have hminus : a.kind.padsStart = true → ('-' :: ds).head? ≠ some a.fill := by
    simp [hfill]
  -- the zero itself is one more zero of the padding
  have htakes : (Tree.ofList (a.before ++ integerTrees base ++ a.behind)).Takes
      (List.replicate (m + 1) a.fill ++ '-' :: ds ++ List.replicate 0 a.fill) w :=
    Alignment.takes_around (by simp [hkind]) (fun _ => rfl) (by simp) hminus
      (takes_integerTrees h36 (.negative hne hds) hstop) (by simp [hkind])
  refine ⟨'-' :: ds, w, by simp, by rw [hsplit, List.cons_append], ?_⟩
  rw [hpadded, numeral_zero, margin_eq_zero_of_right hkind hn, List.replicate_zero, List.append_nil,
    ← hfill, ← List.replicate_succ']
  simpa using htakes

/-- The pattern finds a written integer again in front of text that neither goes on with a digit nor
with the fill, unless a zero runs on into a negative numeral. -/
theorem matched_written_iff (a : Alignment) (base : Nat) (v : Int) (rest : Text)
    (haccepted : Accepted ⟨a, .integer base⟩) (hwidth : a.width < Alignment.widthLimit)
    (hrest : ∀ c ∈ rest.head?, c ∉ digitChars base ∧ c ≠ a.fill) :
    ∃ t r, write ⟨a, .integer base⟩ (.int v) = .ok t ∧ pattern ⟨a, .integer base⟩ = .ok r ∧
      (r.toPattern.matched (t ++ rest) = some t ↔ ¬ RunsOn a base v rest) := by
  obtain ⟨h2, h36⟩ := haccepted.inRange
  refine ⟨_, _, write_integer haccepted hwidth v, pattern_eq (readsTrees_integer h2 h36), ?_⟩
  constructor
  · intro hmatched hruns
    obtain ⟨u, w, hne, rfl, htakes⟩ := exists_takes_of_runsOn haccepted hruns
    rw [← List.append_assoc, matched_toPattern (isPlain_integerPattern a base) htakes] at hmatched
    exact hne (List.append_right_eq_self.1 (Option.some.inj hmatched))
  · intro hruns
    exact matched_toPattern (isPlain_integerPattern a base) (takes_padded_numeral haccepted
      (fun c hc => (hrest c hc).1) (fun _ c hc => (hrest c hc).2) hruns)

/-- A minus sign ends a zero that has zeros in front of it, if no digit follows. -/
theorem matched_written_iff_hex :
    zeroFilledHex.Accepted ∧ zeroFilledHex.alignment.width < Alignment.widthLimit ∧
      (∀ c ∈ "-x".toList.head?, c ∉ digitChars 16 ∧ c ≠ '0') ∧
        ∃ t r, zeroFilledHex.write (.int 0) = .ok t ∧ zeroFilledHex.pattern = .ok r ∧
          r.toPattern.matched (t ++ "-x".toList) = some t := by
  have hwidth : zeroFilledHex.alignment.width < Alignment.widthLimit := by decide +kernel
  have hrest : ∀ c ∈ "-x".toList.head?, c ∉ digitChars 16 ∧ c ≠ '0' := by
    intro c hc
    obtain rfl := Option.some.inj hc
    exact ⟨by decide +kernel, by decide⟩
  have hruns : ¬ RunsOn zeroFilledHex.alignment 16 0 "-x".toList := by
    rintro ⟨-, -, -, d, tail, heq, hd⟩
    obtain ⟨-, rfl, -⟩ : '-' = '-' ∧ 'x' = d ∧ [] = tail := by simpa using heq
    exact absurd hd (by decide +kernel)
  obtain ⟨t, r, hwrite, hpattern, hmatched⟩ :=
    matched_written_iff _ 16 0 _ accepted_zeroFilledHex hwidth hrest
  exact ⟨accepted_zeroFilledHex, hwidth, hrest, t, r, hwrite, hpattern, hmatched.2 hruns⟩

/-- In front of `-5` the zeros of a padded zero are taken for the padding of `-5`. -/
theorem zero_runs_on :
    Accepted ⟨⟨.right, 3, '0'⟩, .integer 10⟩ ∧
      (∀ c ∈ "-5".toList.head?, c ∉ digitChars 10 ∧ c ≠ '0') ∧
        write ⟨⟨.right, 3, '0'⟩, .integer 10⟩ (.int 0) = .ok "000".toList ∧
          ∃ r, pattern ⟨⟨.right, 3, '0'⟩, .integer 10⟩ = .ok r ∧
            r.toPattern.matched ("000".toList ++ "-5".toList) = some "000-5".toList := by
  have haccepted : Accepted ⟨⟨.right, 3, '0'⟩, .integer 10⟩ :=
    accepted_iff.2 ⟨⟨by decide, by decide⟩, by decide +kernel⟩
  refine ⟨haccepted, fun c hc => ?_, write_integer haccepted (by decide +kernel) 0, ?_⟩
  · obtain rfl := Option.some.inj hc
    exact ⟨by decide +kernel, by decide⟩
  · exact ⟨_, pattern_eq (readsTrees_integer (by decide) (by decide)), by decide +kernel⟩

end Match

section Fill
variable {u ds : Text}

theorem eq_zero_of_digitValue {c : Char} (h : digitValue c = some 0) : c = '0' := by
  rw [digitValue] at h
  split at h
  next hc =>
    have hle : '0'.toNat ≤ c.toNat := hc.1
    have hsub := Option.some.inj h
    exact Char.toNat_inj.1 (by omega)
  next =>
    split at h
    next => simp at h
    next => split at h <;> simp at h

/-- Digits are read as their positional value. -/
theorem read_digits (h36 : base ≤ 36) (hne : ds ≠ []) (hlength : ds.length ≤ digitLimit)
    (hds : ∀ c ∈ ds, c ∈ digitChars base) :
    Kind.read ds (.integer base) =
      .ok (.int (positional base (ds.filterMap digitValue))) :=
  map_eq_ok_iff.2 ⟨_, mapError_eq_ok_iff.2 (Numeral.read_eq h36 hne hlength hds false), rfl⟩

/-- What is left of padding and a bare text is the text. -/
theorem read_padded_of_bare {f : Format} {m n : Nat}
    (hm : f.alignment.kind.padsStart = false → m = 0)
    (hn : f.alignment.kind.padsEnd = false → n = 0) (hne : u ≠ []) (hbare : f.alignment.Bare u) :
    f.read (f.alignment.padded
        (List.replicate m f.alignment.fill ++ u ++ List.replicate n f.alignment.fill)) =
      f.kind.read u := by
  obtain ⟨k, l, hpadded, hk, hl⟩ := f.alignment.exists_margins
    (List.replicate m f.alignment.fill ++ u ++ List.replicate n f.alignment.fill)
  have hmargins : f.alignment.padded
        (List.replicate m f.alignment.fill ++ u ++ List.replicate n f.alignment.fill) =
      List.replicate (k + m) f.alignment.fill ++ u ++ List.replicate (n + l) f.alignment.fill := by
    rw [hpadded, ← List.replicate_append_replicate, ← List.replicate_append_replicate]
    simp only [List.append_assoc]
  rw [hmargins, Format.read, unpad_of_bare (fun hpads => ?_) (fun hpads => ?_) hne hbare]
  · rw [hk hpads, hm hpads]
  · rw [hn hpads, hl hpads]

/-- An accepted format reads a padded numeral as the numeral itself. -/
theorem read_padded_eq (h : Accepted ⟨a, .integer base⟩) (hu : IsNumeral base u)
    (hlength : u.length ≤ digitLimit) :
    read ⟨a, .integer base⟩ (a.padded u) = Kind.read u (.integer base) := by
  obtain ⟨h2, h36⟩ := h.inRange
  rcases bare_or_zero h hu with hbare | ⟨hkind, hfill, -, hds⟩
  · have hread := read_padded_of_bare (f := ⟨a, .integer base⟩) (m := 0) (n := 0) (fun _ => rfl)
      (fun _ => rfl) hu.ne_nil hbare
    simpa only [List.replicate_zero, List.nil_append, List.append_nil] using hread
  · obtain ⟨m, n, hpadded, -, hn⟩ := a.exists_margins u
    obtain ⟨k, hk⟩ := Text.eq_replicate_append_dropWhile '0' u
    rw [hpadded, margin_eq_zero_of_right hkind hn, List.replicate_zero, List.append_nil,
      Format.read, unpad_right (f := ⟨a, .integer base⟩) hkind (describes_nil_integer h2 h36) hu.ne_nil,
      read_digits h36 hu.ne_nil hlength hds]
    have hvalue : u.filterMap digitValue =
        List.replicate k 0 ++ (u.dropWhile (· == '0')).filterMap digitValue := by
      conv_lhs => rw [hk]
      rw [List.filterMap_append,
        List.filterMap_replicate_of_some (show digitValue '0' = some 0 from rfl)]
    dsimp only
    rw [hfill, hvalue, positional_replicate_zero_append]
    split
    next hnil =>
      rw [hnil, read_digits h36 (by simp) (by decide) (by simpa using zero_mem_digitChars h2 h36),
        show ['0'].filterMap digitValue = List.replicate 1 0 ++ [] from rfl,
        positional_replicate_zero_append]
      rfl
    next hne =>
      have hsuffix := List.dropWhile_suffix (l := u) (· == '0')
      exact read_digits h36 hne (hsuffix.length_le.trans hlength) fun c hc => hds c (hsuffix.mem hc)

theorem one_mem_digitChars (h2 : 2 ≤ base) (h36 : base ≤ 36) : '1' ∈ digitChars base :=
  List.mem_append_left _ ((mem_alphabet_take_iff h36).2 ⟨1, by omega, rfl⟩)

theorem bare_singleton {c : Char} (hc : c ≠ a.fill) : a.Bare [c] :=
  ⟨fun _ h => hc (Option.some.inj h), fun _ h => hc (Option.some.inj h)⟩

theorem read_one_digit {c : Char} {x : Nat} (h36 : base ≤ 36) (hc : c ∈ digitChars base)
    (hx : digitValue c = some x) : Kind.read [c] (.integer base) = .ok (.int x) := by
  rw [read_digits h36 (by simp) (by simp [digitLimit]) (by simpa using hc),
    List.filterMap_cons_some hx]
  simp [positional]

theorem read_minus_digit {c : Char} {x : Nat} (h36 : base ≤ 36) (hc : c ∈ digitChars base)
    (hx : digitValue c = some x) : Kind.read ['-', c] (.integer base) = .ok (.int (-x)) := by
  have hdigit : ∀ d ∈ [c], d ∈ digitChars base := by simpa using hc
  have hread := Numeral.read_eq h36 (List.cons_ne_nil c []) (by simp [digitLimit]) hdigit true
  rw [List.filterMap_cons_some hx] at hread
  exact map_eq_ok_iff.2 ⟨-x, mapError_eq_ok_iff.2 (by simpa [positional] using hread), rfl⟩

theorem read_two_digits {c d : Char} {x y : Nat} (h36 : base ≤ 36) (hc : c ∈ digitChars base)
    (hd : d ∈ digitChars base) (hx : digitValue c = some x) (hy : digitValue d = some y) :
    Kind.read [c, d] (.integer base) = .ok (.int (x * base + y : Nat)) := by
  rw [read_digits h36 (by simp) (by simp [digitLimit]) (by simp [hc, hd]),
    List.filterMap_cons_some hx, List.filterMap_cons_some hy]
  simp [positional]

section Exact
variable (h2 : 2 ≤ base) (h36 : base ≤ 36)
  (hread : ∀ t, IsNumeral base t → t.length ≤ digitLimit →
    read ⟨a, .integer base⟩ (a.padded t) = Kind.read t (.integer base))
include h2 h36 hread

/-- A digit that is taken off the end of a numeral changes it. -/
theorem fill_notMem_of_read_padded (hpads : a.kind.padsEnd = true) : a.fill ∉ digitChars base := by
  intro hfill
  obtain ⟨y, -, hy⟩ := digitValue_of_mem_digitChars h36 hfill
  have hkept {c : Char} {x : Nat} (hc : c ∈ digitChars base) (hne : c ≠ a.fill)
      (hx : digitValue c = some x) : x * base + y = x := by
    have hleft := read_padded_of_bare (f := ⟨a, .integer base⟩) (m := 0) (n := 1) (u := [c])
      (fun _ => rfl) (by rw [hpads]; nofun) (by simp) (bare_singleton hne)
    have hwhole := hread [c, a.fill] (.plain (by simp) (by simp [hc, hfill])) (by simp [digitLimit])
    rw [read_two_digits h36 hc hfill hx hy] at hwhole
    have heq := hwhole.symm.trans (hleft.trans (read_one_digit h36 hc hx))
    exact Int.ofNat_inj.1 (Value.int.inj (Except.ok.inj heq))
  by_cases hzero : a.fill = '0'
  · have hone := hkept (one_mem_digitChars h2 h36) (by simp [hzero]) (x := 1) rfl
    omega
  · have hnone := hkept (zero_mem_digitChars h2 h36) (Ne.symm hzero) (x := 0) rfl
    obtain rfl : y = 0 := by omega
    exact hzero (eq_zero_of_digitValue hy)

/-- A sign or a digit other than zero that is taken off the front of a numeral changes it. -/
theorem fill_of_read_padded (hpads : a.kind.padsStart = true) :
    a.fill ≠ '-' ∧ (a.fill ∈ digitChars base → a.fill = '0') := by
  have hleft {c : Char} (hne : c ≠ a.fill) := read_padded_of_bare (f := ⟨a, .integer base⟩)
    (m := 1) (n := 0) (u := [c]) (by rw [hpads]; nofun) (fun _ => rfl) (by simp)
    (bare_singleton hne)
  constructor
  · intro hfill
    have hone := one_mem_digitChars h2 h36
    have hwhole := hread ['-', '1'] (.negative (by simp) (by simpa using hone))
      (by simp [digitLimit])
    rw [read_minus_digit h36 hone (x := 1) rfl, ← hfill] at hwhole
    have heq := hwhole.symm.trans
      ((hleft (c := '1') (by simp [hfill])).trans (read_one_digit h36 hone (x := 1) rfl))
    exact absurd (Value.int.inj (Except.ok.inj heq)) (by decide)
  · intro hfill
    by_contra hne
    obtain ⟨x, -, hx⟩ := digitValue_of_mem_digitChars h36 hfill
    have hzero := zero_mem_digitChars h2 h36
    have hwhole := hread [a.fill, '0'] (.plain (by simp) (by simp [hzero, hfill]))
      (by simp [digitLimit])
    rw [read_two_digits h36 hfill hzero hx rfl] at hwhole
    have heq := hwhole.symm.trans ((hleft (Ne.symm hne)).trans (read_one_digit h36 hzero rfl))
    have hvalue := Int.ofNat_inj.1 (Value.int.inj (Except.ok.inj heq))
    obtain rfl : x = 0 := (Nat.mul_eq_zero.1 hvalue).resolve_right (by omega)
    exact hne (eq_zero_of_digitValue hx)

end Exact

/-- The fill of a format of integers is accepted exactly if every numeral that is not too long is
read in its padding as it is read on its own. -/
theorem checkFill_integer_iff (a : Alignment) (n : Int) (hwidth : a.width < Alignment.widthLimit) :
    checkFill ⟨a, .integer (clamp 2 36 n)⟩ = .ok ⟨a, .integer (clamp 2 36 n)⟩ ↔
      ∀ t, t.length ≤ digitLimit → (Kind.integer (clamp 2 36 n)).describes t = true →
        ∃ padded, a.pad t = .ok padded ∧
          read ⟨a, .integer (clamp 2 36 n)⟩ padded = Kind.read t (.integer (clamp 2 36 n)) := by
  obtain ⟨h2, h36⟩ := clamp_mem 2 36 n (by decide)
  generalize clamp 2 36 n = base at h2 h36
  have hpad (t : Text) : a.pad t = .ok (a.padded t) := Alignment.pad_eq_ok hwidth t
  simp only [checkFill_eq_ok_iff, and_true, describes_integer_iff h2 h36, hpad, Except.ok.injEq,
    exists_eq_left']
  constructor
  · intro hfault t hlength ht
    exact read_padded_eq (accepted_iff.2 ⟨⟨h2, h36⟩, hfault⟩) ht hlength
  · intro hread
    have hread t (ht : IsNumeral base t) (hlength : t.length ≤ digitLimit) := hread t hlength ht
    refine fillFault?_eq_none_iff.2 ⟨fun hpads => ?_, fun hpads => ?_⟩
    · exact (mayEnd_integer_eq_false_iff h2 h36).2 (fill_notMem_of_read_padded h2 h36 hread hpads)
    · exact (mayStart_integer_eq_false_iff h2 h36).2 (fill_of_read_padded h2 h36 hread hpads)

/-- Zeros in front of a numeral suit it, zeros behind it do not. -/
theorem checkFill_integer_iff_zeros :
    6 < Alignment.widthLimit ∧
      (∀ t, t.length ≤ digitLimit → (Kind.integer (clamp 2 36 99)).describes t = true →
        ∃ padded, Alignment.pad ⟨.right, 6, '0'⟩ t = .ok padded ∧
          read ⟨⟨.right, 6, '0'⟩, .integer (clamp 2 36 99)⟩ padded =
            Kind.read t (.integer (clamp 2 36 99))) ∧
      ¬ ∀ t, t.length ≤ digitLimit → (Kind.integer (clamp 2 36 99)).describes t = true →
        ∃ padded, Alignment.pad ⟨.left, 6, '0'⟩ t = .ok padded ∧
          read ⟨⟨.left, 6, '0'⟩, .integer (clamp 2 36 99)⟩ padded =
            Kind.read t (.integer (clamp 2 36 99)) := by
  have hwidth : 6 < Alignment.widthLimit := by decide +kernel
  refine ⟨hwidth, (checkFill_integer_iff ⟨.right, 6, '0'⟩ 99 hwidth).1 ?_, fun hread => ?_⟩
  · exact checkFill_eq_ok_iff.2 ⟨by decide +kernel, rfl⟩
  · have hfault := checkFill_eq_ok_iff.1 ((checkFill_integer_iff ⟨.left, 6, '0'⟩ 99 hwidth).2 hread)
    exact absurd hfault.1 (by decide +kernel)

end Fill
end Stencil.Format
