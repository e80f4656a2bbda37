import Stencil.Proofs.Format.Integer
import Stencil.Proofs.Format.Real

/-! # Captured texts and their values

What the pattern of an accepted format captures is read as a value, whatever stands behind it, exactly
if a fill that is a digit leaves enough of every number.
-/
namespace Stencil.Format
open Regex (Tree CharTest)
open Kind

/-- Whatever the pattern captures is read, unless it is longer than any numeral may be. -/
def ReadsCaptured (f : Format) : Prop :=
  ∀ r text n, f.pattern = .ok r → r.matchLength text = some n → n ≤ Numeral.digitLimit →
    ∃ v, f.read (text.take n) = .ok v

section Read
variable {a : Alignment} {base digits : Nat} {exponential : Bool}

theorem exists_read_numeral {u : Text} (h36 : base ≤ 36) (hu : IsNumeral base u)
    (hlength : u.length ≤ Numeral.digitLimit) : ∃ v, Kind.read u (.integer base) = .ok v := by
  have hread : ∃ n, Numeral.read base u = .ok n := by
    cases hu with
    | plain hne hds => exact ⟨_, Numeral.read_eq h36 hne hlength hds false⟩
    | negative hne hds => exact ⟨_, Numeral.read_eq h36 hne (Nat.le_of_succ_le hlength) hds true⟩
  obtain ⟨n, hn⟩ := hread
  exact ⟨.int n, map_eq_ok_iff.2 ⟨n, mapError_eq_ok_iff.2 hn, rfl⟩⟩

theorem readsCaptured_integer (h : Accepted ⟨a, .integer base⟩) :
    ReadsCaptured ⟨a, .integer base⟩ := by
  intro r text n hr hn hlimit
  obtain ⟨h2, h36⟩ := h.inRange
  obtain ⟨m, u, k, htake, hm, hk, hu⟩ :=
    describes_of_captured (readsTrees_integer h2 h36) isPlain_integerTrees hr hn
  have hnumeral := isNumeral_unpad h (describes_integerTrees_iff.1 hu) hm hk
  rw [← htake] at hnumeral
  refine exists_read_numeral h36 hnumeral ((length_unpad_le _ _).trans ?_)
  exact (List.length_take_le n text).trans hlimit

theorem read_real_eq_ok_iff {u : Text} :
    (∃ v, Kind.read u (.real digits exponential) = .ok v) ↔ (Binary64.read u).isSome := by
  rw [Kind.read, Conversion.readReal]
  cases Binary64.read u with
  | none => exact iff_of_false (fun ⟨v, hv⟩ => nomatch hv) nofun
  | some x => exact iff_of_true ⟨.float x, rfl⟩ rfl

theorem readsCaptured_real (h : Accepted ⟨a, .real digits exponential⟩)
    (hrobust : Robust ⟨a, .real digits exponential⟩) :
    ReadsCaptured ⟨a, .real digits exponential⟩ := by
  intro r text n hr hn _
  obtain ⟨m, u, k, htake, hm, hk, hu⟩ :=
    describes_of_captured (readsTrees_real exponential h.inRange) isPlain_realTrees hr hn
  have hsome := isSome_read_unpad h hrobust (describes_realTrees_iff.1 hu) hm hk
  rw [htake]
  exact read_real_eq_ok_iff.2 hsome

end Read

section Unread
variable {a : Alignment} {digits : Nat} {exponential : Bool} {u : Text}

/-- The fewest digits of a number. -/
def leastDigits (digits : Nat) (exponential : Bool) : Nat := digits + if exponential then 2 else 1

theorem countP_fraction {fraction : Text} (h : IsFraction isScriptDigit fraction)
    (hdecimals : fraction.length = if digits = 0 then 0 else digits + 1) :
    digits ≤ fraction.countP isScriptDigit := by
  rcases Nat.eq_zero_or_pos digits with hzero | hpos
  · exact hzero ▸ Nat.zero_le _
  · obtain ⟨ds, rfl, -, hds⟩ := exists_decimals h hdecimals hpos
    have hlength : ds.length = digits := by
      rw [if_neg hpos.ne'] at hdecimals
      exact Nat.succ.inj hdecimals
    rw [← hlength, ← List.countP_eq_length.2 hds]
    exact (List.sublist_cons_self '.' ds).countP_le

theorem countP_exponent {exponent : Text} (h : IsExponent isScriptDigit exponent)
    (hne : exponent ≠ []) (hcomplete : exponent.length ≠ 2) :
    0 < exponent.countP isScriptDigit := by
  cases h with
  | none => exact absurd rfl hne
  | @signed s ds hs hds =>
    have hpos : 0 < ds.length := List.length_pos_iff.2 (by simpa using hcomplete)
    rw [← List.countP_eq_length.2 hds] at hpos
    exact hpos.trans_le ((List.sublist_cons_self s ds).trans (List.sublist_cons_self 'e' _)).countP_le

theorem IsReal.leastDigits_le (h : IsReal digits exponential u) :
    leastDigits digits exponential ≤ u.countP isScriptDigit := by
  obtain ⟨⟨-, hdigits, hfraction, hexponent⟩, hwhole, -, hdecimals, hexponential, hcomplete⟩ := h
  have hpos := List.length_pos_iff.2 hwhole
  rw [← List.countP_eq_length.2 hdigits] at hpos
  have hfew := countP_fraction hfraction hdecimals
  simp only [List.countP_append, leastDigits]
  cases exponential with
  | false =>
    rw [if_neg nofun]
    omega
  | true =>
    have hexp := countP_exponent hexponent (by simpa using hexponential) hcomplete
    rw [if_pos rfl]
    omega

/-- A number with as few digits as there may be is captured as a whole. -/
theorem matchLength_of_fewest (hrange : digits ≤ 100) (hu : IsReal digits exponential u)
    (hfew : u.countP isScriptDigit ≤ leastDigits digits exponential) :
    ∃ r, pattern ⟨a, .real digits exponential⟩ = .ok r ∧ r.matchLength u = some u.length := by
  refine ⟨_, pattern_eq (readsTrees_real exponential hrange), ?_⟩
  refine Regex.matchLength_of_shortest
    (Tree.isPlain_ofList (Alignment.isPlain_around isPlain_realTrees))
    (Alignment.describes_around_iff.2 ⟨0, u, 0, by simp, fun _ => rfl, fun _ => rfl,
      describes_realTrees_iff.2 hu⟩) fun n hn hdescribes => ?_
  obtain ⟨m, v, k, htake, -, -, hv⟩ := Alignment.describes_around_iff.1 hdescribes
  have hleast := (describes_realTrees_iff.1 hv).leastDigits_le
  have hsub : v.countP isScriptDigit ≤ (u.take n).countP isScriptDigit := by
    rw [htake]
    simp only [List.countP_append]
    omega
  have hlast := List.dropLast_append_getLast hu.ne_nil
  have hdigit := hu.getLast? _ (List.getLast?_eq_some_getLast hu.ne_nil)
  have hlonger : (u.take n).countP isScriptDigit ≤ u.dropLast.countP isScriptDigit := by
    have hprefix : u.take n <+: u.dropLast := by
      rw [List.dropLast_eq_take]
      exact List.take_prefix_take_left (by omega)
    exact hprefix.sublist.countP_le
  have hcount : u.countP isScriptDigit = u.dropLast.countP isScriptDigit + 1 := by
    conv_lhs => rw [← hlast]
    rw [List.countP_append, List.countP_singleton, if_pos hdigit]
  omega

theorem exists_fraction (digits : Nat) {d : Char} (hd : isScriptDigit d = true) :
    ∃ fraction : Text, IsFraction isScriptDigit fraction ∧
      (fraction.length = if digits = 0 then 0 else digits + 1) ∧
        fraction.countP isScriptDigit = digits := by
  rcases Nat.eq_zero_or_pos digits with rfl | hpos
  · exact ⟨[], .none, rfl, rfl⟩
  · have hpoint : isScriptDigit '.' = false := isScriptDigit_separator (by simp)
    refine ⟨'.' :: List.replicate digits d, .point (by simp [hd]), by simp [hpos.ne'], ?_⟩
    rw [List.countP_cons_of_neg (by simp [hpoint]), List.countP_replicate, if_pos hd]

section Digit
variable (hfill : isScriptDigit a.fill = true)
include hfill

/-- A format does not read all that its pattern captures, if it takes off too much of a number with as
few digits as there may be. -/
theorem not_readsCaptured {m n : Nat} {v : Text} (hrange : digits ≤ 100)
    (hm : a.kind.padsStart = false → m = 0) (hn : a.kind.padsEnd = false → n = 0) (hne : v ≠ [])
    (hbare : a.Bare v) (hread : (Binary64.read v).isSome = false)
    (hu : IsReal digits exponential (List.replicate m a.fill ++ v ++ List.replicate n a.fill))
    (hfew : m + v.countP isScriptDigit + n ≤ leastDigits digits exponential)
    (hlength : m + v.length + n ≤ Numeral.digitLimit) :
    ¬ ReadsCaptured ⟨a, .real digits exponential⟩ := by
  intro hcaptured
  obtain ⟨r, hr, hmatch⟩ := matchLength_of_fewest (a := a) hrange hu
    (by simpa [List.countP_replicate, hfill, Nat.add_assoc] using hfew)
  obtain ⟨x, hx⟩ := hcaptured r _ _ hr hmatch (by simpa [Nat.add_assoc] using hlength)
  have hunpad := unpad_of_bare (f := ⟨a, .real digits exponential⟩) hm hn hne hbare
  rw [List.take_length, Format.read, hunpad] at hx
  have hsome := read_real_eq_ok_iff.1 ⟨x, hx⟩
  rw [hread] at hsome
  cases hsome

theorem ne_fill_of_separator {d : Char} (hd : d = '-' ∨ d = '.' ∨ d = 'e' ∨ d = '+') : d ≠ a.fill :=
  beq_eq_false_iff_ne.1 (separator_beq_eq_false hfill hd)

/-- With fill taken off its front, `0e+1` has no digit in front of the exponent. -/
theorem not_readsCaptured_mantissa (hkind : a.kind = .right) :
    ¬ ReadsCaptured ⟨a, .real 0 true⟩ := by
  have hunread : (Binary64.read "e+1".toList).isSome = false := by decide +kernel
  have hone : ∀ c ∈ ['1'], isScriptDigit c = true := by simp [isScriptDigit_of_isDigit]
  have hreal : IsReal 0 true (List.replicate 1 a.fill ++ "e+1".toList ++ List.replicate 0 a.fill) := by
    have hdecimal : IsDecimal isScriptDigit [] [a.fill] [] "e+1".toList :=
      ⟨.inl rfl, by simpa using hfill, .none, .signed (.inl rfl) hone⟩
    exact .intro hdecimal (by simp) (fun _ => rfl) rfl rfl (by decide)
  refine not_readsCaptured hfill (Nat.zero_le _) ?_ (fun _ => rfl) (by decide) ?_ hunread hreal
    (by simp [isScriptDigit_separator, isScriptDigit_of_isDigit, leastDigits]) (by decide)
  · simp [hkind]
  · refine ⟨fun _ hhead => ?_, by simp [hkind]⟩
    exact ne_fill_of_separator hfill (.inr (.inr (.inl rfl))) (Option.some.inj hhead)

/-- With fill taken off its end, `-0` is only the sign. -/
theorem not_readsCaptured_sign (hpads : a.kind.padsEnd = true) :
    ¬ ReadsCaptured ⟨a, .real 0 false⟩ := by
  have hunread : (Binary64.read ['-']).isSome = false := by decide +kernel
  have hreal : IsReal 0 false (List.replicate 0 a.fill ++ ['-'] ++ List.replicate 1 a.fill) := by
    have hdecimal : IsDecimal isScriptDigit ['-'] [a.fill] [] [] :=
      ⟨.inr rfl, by simpa using hfill, .none, .none⟩
    exact .intro hdecimal (by simp) nofun rfl rfl nofun
  have hminus := ne_fill_of_separator hfill (.inl rfl)
  refine not_readsCaptured hfill (Nat.zero_le _) (fun _ => rfl) ?_ (by decide) ?_ hunread hreal
    (by simp [isScriptDigit_separator, leastDigits]) (by decide)
  · rw [hpads]
    nofun
  · exact ⟨fun _ hhead => hminus (Option.some.inj hhead), fun _ hlast => hminus (Option.some.inj hlast)⟩

/-- With fill taken off both of its ends, `0.0` is only the point. -/
theorem not_readsCaptured_point (hkind : a.kind = .center) (hrange : digits ≤ 100)
    (hpos : 0 < digits) : ¬ ReadsCaptured ⟨a, .real digits false⟩ := by
  have hunread : (Binary64.read ['.']).isSome = false := by decide +kernel
  have hreal : IsReal digits false
      (List.replicate 1 a.fill ++ ['.'] ++ List.replicate digits a.fill) := by
    have hdecimal : IsDecimal isScriptDigit [] [a.fill] ('.' :: List.replicate digits a.fill) [] :=
      ⟨.inl rfl, by simpa using hfill, .point (by simp [hfill]), .none⟩
    have hreal := @IsReal.intro digits false _ _ _ _ hdecimal (by simp) nofun (by simp [hpos.ne']) rfl
      (by simp)
    simpa using hreal
  have hpoint := ne_fill_of_separator hfill (.inr (.inl rfl))
  refine not_readsCaptured hfill hrange ?_ ?_ (by decide) ?_ hunread hreal ?_ ?_
  · simp [hkind]
  · simp [hkind]
  · exact ⟨fun _ hhead => hpoint (Option.some.inj hhead), fun _ hlast => hpoint (Option.some.inj hlast)⟩
  · have hcount : ['.'].countP isScriptDigit = 0 := by simp [isScriptDigit_separator]
    simp only [hcount, leastDigits, Bool.false_eq_true, if_false]
    omega
  · rw [Numeral.digitLimit, List.length_singleton]
    omega

/-- With fill taken off its end, `1.0e+0` has no digit in its exponent. -/
theorem not_readsCaptured_exponent (h : Accepted ⟨a, .real digits true⟩)
    (hpads : a.kind.padsEnd = true) : ¬ ReadsCaptured ⟨a, .real digits true⟩ := by
  have hone : isScriptDigit '1' = true := isScriptDigit_of_isDigit rfl
  obtain ⟨fraction, hfraction, hdecimals, hcount⟩ := exists_fraction digits hone
  have hbegins : '1' ≠ a.fill := by
    intro heq
    have hend := h.mayEnd_eq_false hpads
    have hdigit : ['1'].isInfixOf_internal "0123456789".toList = true := by decide +kernel
    rw [← heq, mayEnd, hdigit] at hend
    cases hend
  have hends := ne_fill_of_separator hfill (.inr (.inr (.inr rfl)))
  have hunread : (Binary64.read ('1' :: (fraction ++ "e+".toList))).isSome = false := by
    have hdecimal : IsDecimal isScriptDigit [] ['1'] fraction "e+".toList :=
      ⟨.inl rfl, by simpa using hone, hfraction, .signed (.inl rfl) (by simp)⟩
    rw [← Bool.not_eq_true]
    exact fun hread => ((Binary64.read_isSome_iff hdecimal).1 hread).2 rfl
  have hreal : IsReal digits true (List.replicate 0 a.fill ++ ('1' :: (fraction ++ "e+".toList)) ++
      List.replicate 1 a.fill) := by
    have hdecimal : IsDecimal isScriptDigit [] ['1'] fraction ('e' :: '+' :: [a.fill]) :=
      ⟨.inl rfl, by simpa using hone, hfraction, .signed (.inl rfl) (by simpa using hfill)⟩
    simpa using @IsReal.intro digits true _ _ _ _ hdecimal (by simp) (fun _ => rfl) hdecimals rfl nofun
  refine not_readsCaptured hfill h.inRange (fun _ => rfl) ?_ (by simp) ?_ hunread hreal ?_ ?_
  · rw [hpads]
    nofun
  · refine ⟨fun _ hhead => hbegins (Option.some.inj hhead), fun _ hlast => hends ?_⟩
    simpa [List.getLast?_cons] using hlast
  · have hletters : "e+".toList.countP isScriptDigit = 0 := by simp [isScriptDigit_separator]
    have hfirst : List.countP isScriptDigit ('1' :: (fraction ++ "e+".toList)) = digits + 1 := by
      rw [List.countP_cons_of_pos hone, List.countP_append, hcount, hletters]
    simp only [hfirst, leastDigits, if_true]
    omega
  · have hrange : digits ≤ 100 := h.inRange
    have hshort : fraction.length ≤ 101 := by
      rw [hdecimals]
      split <;> omega
    simp [Numeral.digitLimit]
    omega

end Digit

theorem robust_of_readsCaptured (h : Accepted ⟨a, .real digits exponential⟩)
    (hcaptured : ReadsCaptured ⟨a, .real digits exponential⟩) :
    Robust ⟨a, .real digits exponential⟩ := by
  intro hfill
  cases hkind : a.kind with
  | none => trivial
  | right =>
    rintro rfl
    rw [Nat.pos_iff_ne_zero]
    rintro rfl
    exact not_readsCaptured_mantissa hfill hkind hcaptured
  | left =>
    have hpads : a.kind.padsEnd = true := by rw [hkind]; rfl
    cases exponential with
    | true => exact absurd hcaptured (not_readsCaptured_exponent hfill h hpads)
    | false =>
      refine ⟨rfl, Nat.pos_iff_ne_zero.2 ?_⟩
      rintro rfl
      exact not_readsCaptured_sign hfill hpads hcaptured
  | center =>
    have hpads : a.kind.padsEnd = true := by rw [hkind]; rfl
    cases exponential with
    | true => exact not_readsCaptured_exponent hfill h hpads hcaptured
    | false =>
      rcases Nat.eq_zero_or_pos digits with rfl | hpos
      · exact not_readsCaptured_sign hfill hpads hcaptured
      · exact not_readsCaptured_point hfill hkind h.inRange hpos hcaptured

end Unread

/-- What an accepted format captures is always read exactly if the format is robust. -/
theorem readsCaptured_iff {f : Format} (h : f.Accepted) : f.ReadsCaptured ↔ f.Robust := by
  obtain ⟨a, kind⟩ := f
  cases kind with
  | integer base => exact iff_of_true (readsCaptured_integer h) trivial
  | real digits exponential => exact ⟨robust_of_readsCaptured h, readsCaptured_real h⟩
  | text regex => exact iff_of_true (fun _ _ _ _ _ _ => ⟨_, rfl⟩) trivial

end Stencil.Format
