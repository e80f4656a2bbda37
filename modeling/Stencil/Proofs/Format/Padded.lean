import Stencil.Proofs.Format.Integer
import Stencil.Proofs.Format.Real

/-! # Values in their padding

The pattern of a numeric format matches a text exactly if the text is a value between fill characters
on the padded sides, even where the fill is a character that the value may have as well.  Zeros in front
of a real number may be taken off it together with its own, but what is left denotes the same number.
-/
namespace Stencil

namespace Format
open Regex (Tree)
open Regex.Parse (ReadsTrees)
open Kind

/-- A format of integers or of real numbers. -/
def Numeric (f : Format) : Prop :=
  match f.kind with
  | .text _ => False
  | _ => True

section Pattern
variable {f : Format}

/-- Accepted numeric formats have expressions that match by what they describe. -/
theorem Numeric.exists_trees (hnumeric : f.Numeric) (h : f.Accepted) :
    ∃ ts, ReadsTrees f.kind.expression ts ∧ ∀ t ∈ ts, t.isPlain = true := by
  obtain ⟨a, kind⟩ := f
  cases kind with
  | integer base =>
    obtain ⟨h2, h36⟩ := h.inRange
    exact ⟨_, readsTrees_integer h2 h36, isPlain_integerTrees⟩
  | real digits exponential =>
    exact ⟨_, readsTrees_real exponential h.inRange, isPlain_realTrees⟩
  | text regex => exact hnumeric.elim

theorem exists_pattern_of_numeric (h : f.Accepted) (hnumeric : f.Numeric) :
    ∃ r, f.pattern = .ok r := by
  obtain ⟨ts, hts, -⟩ := hnumeric.exists_trees h
  exact ⟨_, pattern_eq hts⟩

/-- A pattern matches what its expression describes between fill characters on padded sides. -/
theorem matchesAll_pattern_iff {ts : List Tree} (hts : ReadsTrees f.kind.expression ts)
    (hplain : ∀ t ∈ ts, t.isPlain = true) {r : Regex} (hr : f.pattern = .ok r) (s : Text) :
    r.matchesAll s = true ↔
      ∃ m v n, s = List.replicate m f.alignment.fill ++ v ++ List.replicate n f.alignment.fill ∧
        (f.alignment.kind.padsStart = false → m = 0) ∧ (f.alignment.kind.padsEnd = false → n = 0) ∧
          f.kind.describes v = true := by
  obtain rfl := Except.ok.inj ((pattern_eq hts).symm.trans hr)
  simp only [describes_iff hts hplain]
  exact (Regex.matchesAll_iff (Tree.isPlain_ofList (Alignment.isPlain_around hplain)) s).trans
    Alignment.describes_around_iff

/-- The pattern of an accepted numeric format matches exactly the values between fill characters on the
padded sides, and so every integer that is written. -/
theorem pattern_matches_padded (f : Format) (haccepted : f.Accepted) (hnumeric : f.Numeric) :
    ∃ r, f.pattern = .ok r ∧
      (∀ s, r.matchesAll s = true ↔
        ∃ m v n, s = List.replicate m f.alignment.fill ++ v ++ List.replicate n f.alignment.fill ∧
          (f.alignment.kind.padsStart = false → m = 0) ∧
            (f.alignment.kind.padsEnd = false → n = 0) ∧ f.kind.describes v = true) ∧
        ∀ base v, f.kind = .integer base → f.alignment.width < Alignment.widthLimit →
          ∃ t, f.write (.int v) = .ok t ∧ r.matchesAll t = true := by
  obtain ⟨ts, hts, hplain⟩ := hnumeric.exists_trees haccepted
  have hiff := matchesAll_pattern_iff hts hplain (pattern_eq hts)
  refine ⟨_, pattern_eq hts, hiff, fun base v hkind hwidth => ?_⟩
  obtain ⟨a, kind⟩ := f
  subst hkind
  obtain ⟨h2, h36⟩ := haccepted.inRange
  refine ⟨_, write_integer haccepted hwidth v, (hiff _).2 ?_⟩
  obtain ⟨m, n, hpadded, hm, hn⟩ := a.exists_margins (Numeral.numeral base v)
  exact ⟨m, _, n, hpadded, hm, hn,
    (describes_integer_iff h2 h36).2 (isNumeral_numeral h2 h36 v)⟩

/-- Numbers centered between Arabic zeros, which are digits of the numbers as well. -/
def arabicCentered : Format := ⟨⟨.center, 9, '٠'⟩, .real 1 false⟩

/-- Octal integers with zeros in front of them. -/
def zeroFilledOctal : Format := ⟨⟨.right, 6, '0'⟩, .integer 8⟩

/-- The Arabic zeros in `٠٠1.5٠` and the zeros in `0-07` may be digits or padding. -/
theorem pattern_matches_padded_zeros :
    (arabicCentered.Accepted ∧ arabicCentered.Numeric ∧
      ∃ r, arabicCentered.pattern = .ok r ∧ r.matchesAll "٠٠1.5٠".toList = true) ∧
    (zeroFilledOctal.Accepted ∧ zeroFilledOctal.Numeric ∧
      zeroFilledOctal.alignment.width < Alignment.widthLimit ∧
      ∃ r, zeroFilledOctal.pattern = .ok r ∧ r.matchesAll "0-07".toList = true ∧
        ∃ t, zeroFilledOctal.write (.int (-7)) = .ok t ∧ r.matchesAll t = true) := by
  have harabic : arabicCentered.Accepted :=
    accepted_iff.2 ⟨Nat.le_of_ble_eq_true rfl, by decide +kernel⟩
  have hoctal : zeroFilledOctal.Accepted := accepted_zeroFilled (by decide) (by decide) 6
  have hwidth : zeroFilledOctal.alignment.width < Alignment.widthLimit :=
    Alignment.lt_widthLimit (by decide)
  constructor
  · obtain ⟨r, hr, hiff, -⟩ := pattern_matches_padded _ harabic trivial
    refine ⟨harabic, trivial, r, hr, (hiff _).2 ⟨2, "1.5".toList, 1, rfl, nofun, nofun, ?_⟩⟩
    decide +kernel
  · obtain ⟨r, hr, hiff, hwritten⟩ := pattern_matches_padded _ hoctal trivial
    refine ⟨hoctal, trivial, hwidth, r, hr, (hiff _).2 ?_, hwritten 8 (-7) rfl hwidth⟩
    exact ⟨1, "-07".toList, 0, rfl, nofun, fun _ => rfl, by decide +kernel⟩

end Pattern

section Real
variable {a : Alignment} {digits : Nat} {exponential : Bool} {u : Text} {c : Char}

theorem mem_of_isScriptDigit (hascii : c.toNat < 128) (hc : isScriptDigit c = true) :
    c ∈ "0123456789".toList := by
  have hdigit := isDigit_of_isScriptDigit hascii hc
  simp only [Char.isDigit, Bool.and_eq_true, decide_eq_true_eq] at hdigit
  have hlow : 48 ≤ c.toNat := hdigit.1
  have hhigh : c.toNat ≤ 57 := hdigit.2
  have hall : ∀ d < 10, Char.ofNat (48 + d) ∈ "0123456789".toList := by decide
  have hmem := hall (c.toNat - 48) (by omega)
  rwa [Nat.add_sub_cancel' hlow, Char.ofNat_toNat] at hmem

/-- An ASCII number has no fill at a padded end, unless zeros stand in front of it. -/
theorem bare_or_zeros (h : Accepted ⟨a, .real digits exponential⟩)
    (hu : IsReal digits exponential u) (hascii : ∀ c ∈ u, c.toNat < 128) :
    a.Bare u ∨ a.kind = .right ∧ a.fill = '0' := by
  have hoccurs {ds : Text} : [a.fill].isInfixOf_internal ds = false ↔ a.fill ∉ ds := by
    rw [← Bool.not_eq_true, List.isInfixOf_internal_iff_isInfix, List.singleton_infix_iff]
  cases hfill : isScriptDigit a.fill with
  | false => exact .inl (bare_of_not_digit h hu hfill)
  | true =>
    have hend (hpads : a.kind.padsEnd = true) : a.fill ∉ "0123456789".toList :=
      hoccurs.1 (h.mayEnd_eq_false hpads)
    by_cases hstart : a.kind.padsStart = true ∧ u.head? = some a.fill
    · obtain ⟨hpads, hhead⟩ := hstart
      have hmem := mem_of_isScriptDigit (hascii _ (List.mem_of_head? hhead)) hfill
      have hkind : a.kind = .right := by
        cases hkind : a.kind with
        | right => rfl
        | none => simp [hkind] at hpads
        | left => simp [hkind] at hpads
        | center => exact absurd hmem (hend (by rw [hkind]; rfl))
      have hmay := h.mayStart_eq_false hpads
      rw [mayStart, Bool.or_eq_false_iff] at hmay
      have hne := hoccurs.1 hmay.2
      exact .inr ⟨hkind, (List.mem_cons.1 hmem).resolve_right hne⟩
    · refine .inl ⟨fun hpads hhead => hstart ⟨hpads, hhead⟩, fun hpads hlast => ?_⟩
      exact hend hpads (mem_of_isScriptDigit (hascii _ (List.mem_of_getLast? hlast)) hfill)

/-- Without the zeros in front of it a number is the same number, unless nothing is left of it. -/
theorem read_dropWhile_zeros (hu : IsReal digits exponential u)
    (hpos : exponential = true → 0 < digits) (hne : u.dropWhile (· == '0') ≠ []) :
    Binary64.read (u.dropWhile (· == '0')) = Binary64.read u := by
  have hzero : isScriptDigit '0' = true := isScriptDigit_of_isDigit rfl
  have hsome := (isSome_read_dropWhile hzero hu hpos).resolve_left hne
  obtain ⟨k, hk⟩ := Text.eq_replicate_append_dropWhile '0' u
  obtain @⟨sign, whole, fraction, exponent, hdecimal, -, -, -, -, -⟩ := hu
  rcases hdecimal.sign with rfl | rfl
  · have hleft : IsDecimal isScriptDigit [] (whole.dropWhile (· == '0')) fraction exponent :=
      { hdecimal with whole := fun d hd => hdecimal.whole d ((List.dropWhile_suffix _).subset hd) }
    have hiff := Binary64.read_isSome_iff hleft
    rw [List.nil_append] at hk hsome hiff ⊢
    rw [dropWhile_unsigned hzero hdecimal.fraction hdecimal.exponent] at hk hsome ⊢
    conv_rhs => rw [hk]
    exact (Binary64.read_replicate_zero_append hleft (hiff.1 hsome) k).symm
  · rw [List.cons_append, List.dropWhile_cons_of_neg (by decide)]

/-- A number that is nothing but zeros is zero. -/
theorem read_zeros (hne : u ≠ []) (hu : u.dropWhile (· == '0') = []) :
    Binary64.read u = Binary64.read ['0'] := by
  have hdigit : IsDecimal isScriptDigit [] ['0'] [] [] := by
    refine ⟨.inl rfl, ?_, .none, .none⟩
    rw [List.forall_mem_singleton]
    exact isScriptDigit_of_isDigit rfl
  obtain ⟨k, hk⟩ := Text.eq_replicate_append_dropWhile '0' u
  rw [hu, List.append_nil] at hk
  cases k with
  | zero => exact absurd hk hne
  | succ k =>
    rw [hk, List.replicate_succ']
    exact Binary64.read_replicate_zero_append hdigit ⟨by simp, nofun⟩ k

/-- What is left of a padded ASCII number denotes the number. -/
theorem read_unpad_padded (h : Accepted ⟨a, .real digits exponential⟩)
    (hpos : exponential = true → 0 < digits) (hu : IsReal digits exponential u)
    (hascii : ∀ c ∈ u, c.toNat < 128) :
    Binary64.read (unpad ⟨a, .real digits exponential⟩ (a.padded u)) = Binary64.read u := by
  obtain ⟨m, n, hpadded, hm, hn⟩ := a.exists_margins u
  rw [hpadded]
  rcases bare_or_zeros h hu hascii with hbare | ⟨hkind, hfill⟩
  · rw [unpad_of_bare (f := ⟨a, .real digits exponential⟩) hm hn hu.ne_nil hbare]
  · rw [hn (by rw [hkind]; rfl), List.replicate_zero, List.append_nil,
      unpad_right (f := ⟨a, .real digits exponential⟩) hkind (describes_nil_real h.inRange) hu.ne_nil]
    simp only [hfill]
    split
    next hnone => exact (read_zeros hu.ne_nil hnone).symm
    next hne => exact read_dropWhile_zeros hu hpos hne

/-- A number is read with the sign that stands in front of it. -/
theorem IsReal.exists_read (hu : IsReal digits exponential u) :
    ∃ x, Binary64.read u = some x ∧ x.sign? = some (decide (u.head? = some '-')) := by
  obtain ⟨x, hx⟩ := Option.isSome_iff_exists.1 hu.isSome_read
  have hhead := hu.head?
  obtain @⟨sign, whole, fraction, exponent, hdecimal, hwhole, -, -, -, -⟩ := hu
  refine ⟨x, hx, ?_⟩
  rw [Binary64.sign?_of_read hdecimal hx]
  rcases hdecimal.sign with rfl | rfl
  · have hminus : whole.head? ≠ some '-' := by
      intro hhead
      have hdigit := hdecimal.whole _ (List.mem_of_head? hhead)
      rw [isScriptDigit_separator (.inl rfl)] at hdigit
      cases hdigit
    rw [List.nil_append, List.head?_append_of_ne_nil _ hwhole]
    simp [hminus]
  · rfl

/-- An accepted format of real numbers reads an ASCII number in its padding as the number itself, with
the sign that it has, if a decimal stands in front of each exponent. -/
theorem read_padded_real (a : Alignment) (digits : Nat) (exponential : Bool) (t : Text)
    (haccepted : Accepted ⟨a, .real digits exponential⟩) (hwidth : a.width < Alignment.widthLimit)
    (hdigits : exponential = true → 1 ≤ digits) (hascii : ∀ c ∈ t, c.toNat < 128)
    (ht : (Kind.real digits exponential).describes t = true) :
    ∃ padded x, a.pad t = .ok padded ∧ Kind.read t (.real digits exponential) = .ok (.float x) ∧
      read ⟨a, .real digits exponential⟩ padded = .ok (.float x) ∧
        x.sign? = some (decide (t.head? = some '-')) := by
  have hreal := (describes_real_iff haccepted.inRange).1 ht
  obtain ⟨x, hx, hsign⟩ := hreal.exists_read
  have hread {u : Text} (hu : Binary64.read u = some x) :
      Kind.read u (.real digits exponential) = .ok (.float x) := by
    rw [Kind.read, Conversion.readReal, hu]
    rfl
  refine ⟨a.padded t, x, Alignment.pad_eq_ok hwidth t, hread hx, hread ?_, hsign⟩
  rw [read_unpad_padded haccepted hdigits hreal hascii, hx]

/-- Of `00000.50` the format reads `.50`, and of `000-0.00` a negative zero. -/
theorem read_padded_real_zeros :
    Accepted ⟨⟨.right, 8, '0'⟩, .real 2 false⟩ ∧ 8 < Alignment.widthLimit ∧
      ∃ x y, read ⟨⟨.right, 8, '0'⟩, .real 2 false⟩ "00000.50".toList = .ok (.float x) ∧
        Kind.read "0.50".toList (.real 2 false) = .ok (.float x) ∧
        read ⟨⟨.right, 8, '0'⟩, .real 2 false⟩ "000-0.00".toList = .ok (.float y) ∧
        y.sign? = some true := by
  have haccepted : Accepted ⟨⟨.right, 8, '0'⟩, .real 2 false⟩ :=
    accepted_iff.2 ⟨Nat.le_of_ble_eq_true rfl, by decide +kernel⟩
  have hwidth : (⟨.right, 8, '0'⟩ : Alignment).width < Alignment.widthLimit :=
    Alignment.lt_widthLimit (by decide)
  have hascii : ∀ t ∈ ["0.50".toList, "-0.00".toList], ∀ c ∈ t, c.toNat < 128 := by simp
  have hhalf : (Kind.real 2 false).describes "0.50".toList = true := by decide +kernel
  have hzero : (Kind.real 2 false).describes "-0.00".toList = true := by decide +kernel
  obtain ⟨padded, x, hpad, hx, hread, -⟩ :=
    read_padded_real ⟨.right, 8, '0'⟩ 2 false _ haccepted hwidth nofun (hascii _ (by simp)) hhalf
  obtain ⟨padded', y, hpad', -, hread', hsign⟩ :=
    read_padded_real ⟨.right, 8, '0'⟩ 2 false _ haccepted hwidth nofun (hascii _ (by simp)) hzero
  obtain rfl := Except.ok.inj ((Alignment.pad_eq_ok hwidth _).symm.trans hpad)
  obtain rfl := Except.ok.inj ((Alignment.pad_eq_ok hwidth _).symm.trans hpad')
  exact ⟨haccepted, hwidth, x, y, hread, hx, hread', hsign⟩

end Real

end Format
end Stencil
