import Stencil.Binary64.Decimal
import Stencil.Proofs.Alignment
import Stencil.Proofs.Numeral

/-! # Numerals that are read as real numbers

A text has the shape of a numeral if it consists of a sign, digits, a point with digits and an exponent,
whatever script the digits are of and whether or not each part is there.  Such a text is read exactly if
there is a digit in front of the exponent, and one in the exponent if there is an exponent.
-/
namespace Stencil

/-- A point with digits behind it, or nothing. -/
inductive IsFraction (p : Char → Bool) : Text → Prop
  | none : IsFraction p []
  | point {ds : Text} (hds : ∀ c ∈ ds, p c = true) : IsFraction p ('.' :: ds)

/-- The letter of an exponent with a sign and digits behind it, or nothing. -/
inductive IsExponent (p : Char → Bool) : Text → Prop
  | none : IsExponent p []
  | signed {s : Char} {ds : Text} (hs : s = '+' ∨ s = '-') (hds : ∀ c ∈ ds, p c = true) :
    IsExponent p ('e' :: s :: ds)

/-- The parts of a numeral, the digits of which satisfy `p`. -/
structure IsDecimal (p : Char → Bool) (sign whole fraction exponent : Text) : Prop where
  sign : sign = [] ∨ sign = ['-']
  whole : ∀ c ∈ whole, p c = true
  fraction : IsFraction p fraction
  exponent : IsExponent p exponent

/-- There is a digit in front of the exponent, and one in the exponent if there is an exponent. -/
def Complete (whole fraction exponent : Text) : Prop :=
  ¬ (whole = [] ∧ (fraction = [] ∨ fraction = ['.'])) ∧ exponent.length ≠ 2

/-- Whether a character is a decimal digit of any script. -/
def isScriptDigit (c : Char) : Bool := Unicode.isDigit c.toNat

section Script

/-- No digit of any script is a blank, and the only ASCII digits are those from `0` to `9`. -/
theorem digitRuns_apart : (Unicode.digitRuns.all fun r =>
    (0x80 ≤ r.1 || r == (0x30, 0x39)) && Text.blankRuns.all fun b => b.2 < r.1 || r.2 < b.1) = true := by
  decide +kernel

theorem exists_run_of_isScriptDigit {c : Char} (hc : isScriptDigit c = true) :
    ∃ r ∈ Unicode.digitRuns, r.1 ≤ c.toNat ∧ c.toNat ≤ r.2 := by
  obtain ⟨d, hd⟩ := Option.isSome_iff_exists.1 hc
  obtain ⟨r, hfind, -⟩ := Option.map_eq_some_iff.1 hd
  exact ⟨r, List.mem_of_find?_eq_some hfind, by simpa using List.find?_some hfind⟩

theorem isDigit_of_isScriptDigit {c : Char} (hascii : c.toNat < 0x80) (hc : isScriptDigit c = true) :
    c.isDigit = true := by
  obtain ⟨r, hr, hlow, hhigh⟩ := exists_run_of_isScriptDigit hc
  have hapart := List.all_eq_true.1 digitRuns_apart r hr
  simp only [Bool.and_eq_true, Bool.or_eq_true, decide_eq_true_eq, beq_iff_eq] at hapart
  have hrange : r = (0x30, 0x39) := hapart.1.resolve_left (by omega)
  rw [hrange] at hlow hhigh
  simp only [Char.isDigit, Bool.and_eq_true, decide_eq_true_eq]
  exact ⟨hlow, hhigh⟩

theorem isScriptDigit_of_isDigit {c : Char} (hc : c.isDigit = true) : isScriptDigit c = true := by
  simp only [Char.isDigit, Bool.and_eq_true, decide_eq_true_eq] at hc
  have hlow : 0x30 ≤ c.toNat := hc.1
  have hhigh : c.toNat ≤ 0x39 := hc.2
  have hrange : (0x30, 0x39) ∈ Unicode.digitRuns := by simp [Unicode.digitRuns]
  have hin : ∃ r ∈ Unicode.digitRuns, (r.1 ≤ c.toNat && c.toNat ≤ r.2) = true :=
    ⟨_, hrange, by simp [hlow, hhigh]⟩
  simpa [isScriptDigit, Unicode.isDigit, Unicode.digitValue?] using List.find?_isSome.2 hin

/-- What stands between the digits of a number is no digit. -/
theorem isScriptDigit_separator {c : Char} (hc : c = '-' ∨ c = '.' ∨ c = 'e' ∨ c = '+') :
    isScriptDigit c = false := by
  rw [← Bool.not_eq_true]
  intro hdigit
  rcases hc with rfl | rfl | rfl | rfl <;>
    exact absurd (isDigit_of_isScriptDigit (by decide) hdigit) (by decide)

theorem toAscii_of_isScriptDigit {c : Char} (hc : isScriptDigit c = true) :
    (Numeral.toAscii c).isDigit = true := by
  rw [Numeral.toAscii]
  split
  next hascii => exact isDigit_of_isScriptDigit (by omega) hc
  next =>
    obtain ⟨r, hr, hlow, hhigh⟩ := exists_run_of_isScriptDigit hc
    have hapart := List.all_eq_true.1 digitRuns_apart r hr
    simp only [Bool.and_eq_true, decide_eq_true_eq, Bool.or_eq_true, List.all_eq_true] at hapart
    have hblank : Text.isBlank c = false := by
      rw [Text.isBlank, ← Bool.not_eq_true, Unicode.inRuns_iff]
      rintro ⟨b, hb, hlow, hhigh⟩
      have := hapart.2 b hb
      omega
    obtain ⟨d, hd⟩ := Option.isSome_iff_exists.1 hc
    have hdigits : ∀ d < 10, (Char.ofNat ('0'.toNat + d)).isDigit = true := by decide
    rw [hblank, hd]
    exact hdigits d (Unicode.digitValue?_lt hd)

theorem IsFraction.map {p q : Char → Bool} {f : Char → Char} {u : Text} (h : IsFraction p u)
    (hf : ∀ c, p c = true → q (f c) = true) (hpoint : f '.' = '.') : IsFraction q (u.map f) := by
  cases h with
  | none => exact .none
  | point hds =>
    rw [List.map_cons, hpoint]
    exact .point (by simpa using fun c hc => hf c (hds c hc))

theorem IsExponent.map {p q : Char → Bool} {f : Char → Char} {u : Text} (h : IsExponent p u)
    (hf : ∀ c, p c = true → q (f c) = true) (he : f 'e' = 'e') (hplus : f '+' = '+')
    (hminus : f '-' = '-') : IsExponent q (u.map f) := by
  cases h with
  | none => exact .none
  | @signed s ds hs hds =>
    have hfs : f s = s := by rcases hs with rfl | rfl <;> assumption
    rw [List.map_cons, List.map_cons, he, hfs]
    exact .signed hs (by simpa using fun c hc => hf c (hds c hc))

theorem IsDecimal.map_toAscii {sign whole fraction exponent : Text}
    (h : IsDecimal isScriptDigit sign whole fraction exponent) :
    IsDecimal Char.isDigit sign (whole.map Numeral.toAscii) (fraction.map Numeral.toAscii)
      (exponent.map Numeral.toAscii) where
  sign := h.sign
  whole := by simpa using fun c hc => toAscii_of_isScriptDigit (h.whole c hc)
  fraction := h.fraction.map (fun _ => toAscii_of_isScriptDigit) rfl
  exponent := h.exponent.map (fun _ => toAscii_of_isScriptDigit) rfl rfl rfl

theorem complete_map_toAscii {p : Char → Bool} {whole fraction exponent : Text}
    (h : IsFraction p fraction) :
    Complete (whole.map Numeral.toAscii) (fraction.map Numeral.toAscii) (exponent.map Numeral.toAscii) ↔
      Complete whole fraction exponent := by
  cases h with
  | none => simp [Complete]
  | point => simp [Complete, show Numeral.toAscii '.' = '.' from rfl]

end Script

section Characters
variable {u v sign whole fraction exponent : Text}

theorem IsFraction.chars (h : IsFraction Char.isDigit u) :
    ∀ c ∈ u, c.isDigit = true ∨ c ∈ ['-', '.', 'e', '+'] := by
  cases h with
  | none => simp
  | point hds =>
    intro c hc
    rcases List.mem_cons.1 hc with rfl | hc
    · exact .inr (by decide)
    · exact .inl (hds c hc)

theorem IsExponent.chars (h : IsExponent Char.isDigit u) :
    ∀ c ∈ u, c.isDigit = true ∨ c ∈ ['-', '.', 'e', '+'] := by
  cases h with
  | none => simp
  | signed hs hds =>
    intro c hc
    rcases List.mem_cons.1 hc with rfl | hc
    · exact .inr (by decide)
    · rcases List.mem_cons.1 hc with rfl | hc
      · exact .inr (by rcases hs with rfl | rfl <;> decide)
      · exact .inl (hds c hc)

/-- The characters of a numeral are no blanks and no underscores. -/
theorem IsDecimal.plain (h : IsDecimal Char.isDigit sign whole fraction exponent) :
    ∀ c ∈ sign ++ (whole ++ (fraction ++ exponent)), Numeral.isAsciiBlank c = false ∧ c ≠ '_' := by
  intro c hc
  have hchar : c.isDigit = true ∨ c ∈ ['-', '.', 'e', '+'] := by
    simp only [List.mem_append] at hc
    rcases hc with hc | hc | hc | hc
    · rcases h.sign with hsign | hsign <;> rw [hsign] at hc
      · cases hc
      · obtain rfl := List.mem_singleton.1 hc
        exact .inr (by decide)
    · exact .inl (h.whole c hc)
    · exact h.fraction.chars c hc
    · exact h.exponent.chars c hc
  rcases hchar with hdigit | hseparator
  · constructor
    · simp only [Char.isDigit, Bool.and_eq_true, decide_eq_true_eq] at hdigit
      have hlow : 48 ≤ c.toNat := hdigit.1
      have hspace : c ≠ ' ' := by
        rintro rfl
        exact absurd hlow (by decide)
      have hbelow : ¬ c.toNat ≤ 0xd := by omega
      simp [Numeral.isAsciiBlank, hspace, hbelow]
    · rintro rfl
      cases hdigit
  · simp only [List.mem_cons, List.not_mem_nil, or_false] at hseparator
    rcases hseparator with rfl | rfl | rfl | rfl <;> decide

theorem IsExponent.head? {p : Char → Bool} (h : IsExponent p u) : ∀ c ∈ u.head?, c = 'e' := by
  cases h <;> simp

theorem IsFraction.head?_append {p : Char → Bool} (h : IsFraction p u) (hv : IsExponent p v) :
    ∀ c ∈ (u ++ v).head?, c = '.' ∨ c = 'e' := by
  cases h with
  | none => exact fun c hc => .inr (hv.head? c hc)
  | point => simp

theorem IsDecimal.head?_unsigned {p : Char → Bool} (h : IsDecimal p sign whole fraction exponent) :
    ∀ c ∈ (whole ++ (fraction ++ exponent)).head?, p c = true ∨ c = '.' ∨ c = 'e' := by
  intro c hc
  by_cases hnil : whole = []
  · rw [hnil, List.nil_append] at hc
    exact .inr (h.fraction.head?_append h.exponent c hc)
  · rw [List.head?_append_of_ne_nil _ hnil] at hc
    exact .inl (h.whole c (List.mem_of_head? hc))

end Characters

namespace Binary64

section Read
variable {sign whole fraction exponent : Text}

theorem readExponent_isSome_iff (h : IsExponent Char.isDigit exponent) :
    (readExponent exponent).isSome ↔ exponent.length ≠ 2 := by
  cases h with
  | none => exact iff_of_true rfl nofun
  | @signed s ds hs hds =>
    have hall : ds.all Char.isDigit = true := List.all_eq_true.2 hds
    rcases hs with rfl | rfl <;> cases ds <;> simp_all [readExponent, Numeral.takeSign]

/-- A numeral denotes the digits of both of its parts in front of the exponent, scaled by the exponent
and by the count of its decimals. -/
theorem readDecimal_eq (h : IsDecimal Char.isDigit sign whole fraction exponent) (negative : Bool) :
    readDecimal negative (whole ++ (fraction ++ exponent)) =
      if whole = [] ∧ (fraction = [] ∨ fraction = ['.']) then none
      else (readExponent exponent).map fun e =>
        ⟨negative, Numeral.positional 10 ((whole ++ fraction.drop 1).filterMap Numeral.digitValue),
          e - (fraction.drop 1).length⟩ := by
  obtain ⟨-, hwhole, hfraction, hexponent⟩ := h
  have hhead : ∀ c ∈ (fraction ++ exponent).head?, c.isDigit = false := by
    intro c hc
    rcases hfraction.head?_append hexponent c hc with rfl | rfl <;> rfl
  have hexp : ∀ c ∈ exponent.head?, c.isDigit = false := by
    intro c hc
    rw [hexponent.head? c hc]
    rfl
  obtain ⟨htake, hdrop⟩ := Text.takeWhile_append_of_stop hwhole hhead
  rw [readDecimal, htake, hdrop]
  cases hfraction with
  | none => cases hexponent <;> cases whole <;> simp
  | @point ds hds =>
    obtain ⟨htake, hdrop⟩ := Text.takeWhile_append_of_stop hds hexp
    simp only [List.cons_append, htake, hdrop]
    cases whole <;> cases ds <;> simp

theorem readDecimal_isSome_iff (h : IsDecimal Char.isDigit sign whole fraction exponent)
    (negative : Bool) :
    (readDecimal negative (whole ++ (fraction ++ exponent))).isSome ↔
      Complete whole fraction exponent := by
  rw [readDecimal_eq h, Complete, ← readExponent_isSome_iff h.exponent]
  split <;> simp [*]

theorem dropUnderscores_eq {last : Option Char} {u : Text} (hlast : last ≠ some '_')
    (hu : ∀ c ∈ u, c ≠ '_') : dropUnderscores last u = some u := by
  induction u generalizing last with
  | nil => exact if_neg hlast
  | cons c u ih =>
    have hc := hu c List.mem_cons_self
    have hnext : some c ≠ some '_' := by simpa using hc
    rw [dropUnderscores, if_neg hc]
    simp [hlast, ih hnext fun d hd => hu d (List.mem_cons_of_mem c hd)]

section Unsigned
variable {u v : Text} (hu : ∀ c ∈ u.head?, c.isDigit = true ∨ c = '.' ∨ c = 'e')
include hu

theorem takeSign_eq (hsign : sign = [] ∨ sign = ['-']) :
    Numeral.takeSign (sign ++ u) = (decide (sign = ['-']), u) := by
  rcases hsign with rfl | rfl
  · rw [List.nil_append, Numeral.takeSign.eq_def]
    split
    next => rcases hu _ rfl with h | h | h <;> cases h
    next => rcases hu _ rfl with h | h | h <;> cases h
    next => rfl
  · rfl

/-- No numeral starts like one of the words for infinity and for no number at all. -/
theorem map_asciiLower_ne {d : Char} (hd : d = 'i' ∨ d = 'n') : u.map Text.asciiLower ≠ d :: v := by
  intro heq
  have hhead := congrArg List.head? heq
  rw [List.head?_map, List.head?_cons, Option.map_eq_some_iff] at hhead
  obtain ⟨c, hc, hlower⟩ := hhead
  rcases hu c hc with hdigit | rfl | rfl
  · have hself : Text.asciiLower c = c := by
      simp only [Char.isDigit, Bool.and_eq_true, decide_eq_true_eq] at hdigit
      exact if_neg fun hupper => absurd (hupper.1.trans hdigit.2) (by decide)
    rw [← hlower, hself] at hd
    rcases hd with rfl | rfl <;> cases hdigit
  · subst hlower
    revert hd
    decide
  · subst hlower
    revert hd
    decide

end Unsigned

theorem readSigned_eq (h : IsDecimal Char.isDigit sign whole fraction exponent) :
    readSigned (sign ++ (whole ++ (fraction ++ exponent))) =
      (readDecimal (sign = ['-']) (whole ++ (fraction ++ exponent))).map Decimal.toBinary64 := by
  have hhead := h.head?_unsigned
  rw [readSigned, takeSign_eq hhead h.sign]
  dsimp only
  rw [if_neg ?_, if_neg ?_]
  · exact map_asciiLower_ne hhead (.inr rfl)
  · exact not_or.2 ⟨map_asciiLower_ne hhead (.inl rfl), map_asciiLower_ne hhead (.inl rfl)⟩

theorem read_eq_readSigned {u : Text}
    (h : ∀ c ∈ u.map Numeral.toAscii, Numeral.isAsciiBlank c = false ∧ c ≠ '_') :
    read u = readSigned (u.map Numeral.toAscii) := by
  have htrim : Text.trim Numeral.isAsciiBlank (u.map Numeral.toAscii) = u.map Numeral.toAscii := by
    rw [Text.trim, Text.dropWhile_eq_self_iff_head?.2 fun c hc => (h c (List.mem_of_head? hc)).1]
    exact Text.rdropWhile_eq_self_iff.2 fun c hc => (h c (List.mem_of_getLast? hc)).1
  rw [read, htrim, dropUnderscores_eq (by simp) fun c hc => (h c hc).2]
  rfl

/-- A text of the shape of a numeral is read as the decimal that it denotes, whatever script its digits
are of. -/
theorem read_eq (h : IsDecimal isScriptDigit sign whole fraction exponent) :
    read (sign ++ (whole ++ (fraction ++ exponent))) =
      (readDecimal (sign = ['-']) (whole.map Numeral.toAscii ++ (fraction.map Numeral.toAscii ++
        exponent.map Numeral.toAscii))).map Decimal.toBinary64 := by
  have hascii := h.map_toAscii
  have hmap : (sign ++ (whole ++ (fraction ++ exponent))).map Numeral.toAscii =
      sign ++ (whole.map Numeral.toAscii ++ (fraction.map Numeral.toAscii ++
        exponent.map Numeral.toAscii)) := by
    rcases h.sign with hsign | hsign <;> simp [hsign, show Numeral.toAscii '-' = '-' from rfl]
  have hplain := hascii.plain
  rw [← hmap] at hplain
  rw [read_eq_readSigned hplain, hmap, readSigned_eq hascii]

/-- A text of the shape of a numeral is read as some number exactly if it is complete. -/
theorem read_isSome_iff (h : IsDecimal isScriptDigit sign whole fraction exponent) :
    (read (sign ++ (whole ++ (fraction ++ exponent)))).isSome ↔ Complete whole fraction exponent := by
  rw [read_eq h, Option.isSome_map, readDecimal_isSome_iff h.map_toAscii,
    complete_map_toAscii h.fraction]

/-- Zeros in front of a numeral do not count. -/
theorem read_replicate_zero_append (h : IsDecimal isScriptDigit [] whole fraction exponent)
    (hcomplete : Complete whole fraction exponent) (k : Nat) :
    read (List.replicate k '0' ++ (whole ++ (fraction ++ exponent))) =
      read (whole ++ (fraction ++ exponent)) := by
  have hzero : isScriptDigit '0' = true := isScriptDigit_of_isDigit rfl
  have hlonger : IsDecimal isScriptDigit [] (List.replicate k '0' ++ whole) fraction exponent := by
    refine { h with whole := fun c hc => ?_ }
    rcases List.mem_append.1 hc with hc | hc
    · rw [List.eq_of_mem_replicate hc]
      exact hzero
    · exact h.whole c hc
  have hzeros : (List.replicate k '0' ++ whole).map Numeral.toAscii =
      List.replicate k '0' ++ whole.map Numeral.toAscii := by
    rw [List.map_append, List.map_replicate]
    rfl
  have hsome : ¬ (whole.map Numeral.toAscii = [] ∧
      (fraction.map Numeral.toAscii = [] ∨ fraction.map Numeral.toAscii = ['.'])) :=
    ((complete_map_toAscii h.fraction).2 hcomplete).1
  have hsome' : ¬ (List.replicate k '0' ++ whole.map Numeral.toAscii = [] ∧
      (fraction.map Numeral.toAscii = [] ∨ fraction.map Numeral.toAscii = ['.'])) :=
    fun hnone => hsome ⟨(List.append_eq_nil_iff.1 hnone.1).2, hnone.2⟩
  have hdigits : Numeral.positional 10 (((List.replicate k '0' ++ whole.map Numeral.toAscii) ++
      (fraction.map Numeral.toAscii).drop 1).filterMap Numeral.digitValue) =
        Numeral.positional 10 ((whole.map Numeral.toAscii ++
          (fraction.map Numeral.toAscii).drop 1).filterMap Numeral.digitValue) := by
    rw [List.append_assoc, Numeral.positional_zeros_append]
  have hread := read_eq h
  have hread' := read_eq hlonger
  rw [readDecimal_eq h.map_toAscii, if_neg hsome] at hread
  rw [readDecimal_eq hlonger.map_toAscii, hzeros, if_neg hsome', hdigits] at hread'
  rw [List.nil_append, List.append_assoc] at hread'
  exact hread'.trans hread.symm

end Read

section Sign

/-- The sign of a number; what is no number at all has none. -/
def sign? : Binary64 → Option Bool
  | finite negative _ _ => some negative
  | infinite negative => some negative
  | nan => none

theorem sign?_ofRatio (negative : Bool) (num den : Nat) :
    (ofRatio negative num den).sign? = some negative := by
  rw [ofRatio]
  by_cases hzero : num = 0
  · simp [hzero, zero, sign?]
  · simp only [hzero, if_false]
    split_ifs <;> rfl

/-- The number that a decimal is read as keeps its sign. -/
theorem sign?_toBinary64 (d : Decimal) : d.toBinary64.sign? = some d.negative := by
  have hround (d : Decimal) : d.round.sign? = some d.negative := by
    simp only [Decimal.round]
    split_ifs <;> first | rfl | exact sign?_ofRatio ..
  have hnormalize : d.normalize.negative = d.negative := by
    rw [Decimal.normalize]
    split <;> rfl
  rw [Decimal.toBinary64, hround, hnormalize]

/-- A numeral is read with the sign that it is written with. -/
theorem sign?_of_read {sign whole fraction exponent : Text}
    (h : IsDecimal isScriptDigit sign whole fraction exponent) {x : Binary64}
    (hx : read (sign ++ (whole ++ (fraction ++ exponent))) = some x) :
    x.sign? = some (decide (sign = ['-'])) := by
  rw [read_eq h, readDecimal_eq h.map_toAscii] at hx
  split at hx
  next => cases hx
  next =>
    rw [Option.map_map, Option.map_eq_some_iff] at hx
    obtain ⟨e, -, rfl⟩ := hx
    exact sign?_toBinary64 _

end Sign

end Binary64
end Stencil
