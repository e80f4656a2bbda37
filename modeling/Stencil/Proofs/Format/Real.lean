import Stencil.Proofs.Binary64
import Stencil.Proofs.Format.Accepted
import Stencil.Proofs.Format.Pattern

/-! # Formats of real numbers

What the pattern of a format finds is a numeral between its padding.  A fill that is a digit may be
taken off the numeral too, and what is left is a number as long as a digit of its own stays in front of
the exponent, and one behind the sign of the exponent.
-/
namespace Stencil.Format
open Regex (Tree CharTest)
open Regex.Parse (oneOf holds_oneOf_iff)
open Kind

/-- A number with the given count of decimals, with an exponent or without one. -/
inductive IsReal (digits : Nat) (exponential : Bool) : Text → Prop
  | intro {sign whole fraction exponent : Text}
    (hdecimal : IsDecimal isScriptDigit sign whole fraction exponent) (hwhole : whole ≠ [])
    (hsingle : exponential = true → whole.length = 1)
    (hdecimals : fraction.length = if digits = 0 then 0 else digits + 1)
    (hexponential : exponent.isEmpty = !exponential) (hexponent : exponent.length ≠ 2) :
    IsReal digits exponential (sign ++ (whole ++ (fraction ++ exponent)))

section Pattern
variable {digits : Nat} {exponential : Bool} {u : Text}

theorem holds_digitTest (c : Char) : digitTest.holds c = isScriptDigit c := by
  simp [digitTest, CharTest.holds, Regex.SetItem.holds, Regex.Category.holds, isScriptDigit]

theorem describes_digits_iff {min : Nat} {max : Option Nat} :
    (Tree.chars digitTest min max .greedy).Describes u ↔
      min ≤ u.length ∧ (∀ k ∈ max, u.length ≤ k) ∧ ∀ c ∈ u, isScriptDigit c = true := by
  simp only [Tree.Describes, holds_digitTest]

theorem describes_wholeTrees_iff :
    (Tree.ofList (wholeTrees exponential)).Describes u ↔
      ∃ sign whole, u = sign ++ whole ∧ (sign = [] ∨ sign = ['-']) ∧ whole ≠ [] ∧
        (∀ c ∈ whole, isScriptDigit c = true) ∧ (exponential = true → whole.length = 1) := by
  rw [wholeTrees, Tree.describes_ofList_cons]
  refine exists_congr fun sign => exists_congr fun whole => and_congr_right fun _ =>
    and_congr describes_signTree_iff ?_
  cases exponential with
  | false =>
    change (Tree.chars digitTest 1 none .greedy).Describes whole ↔ _
    rw [describes_digits_iff]
    simp [Nat.one_le_iff_ne_zero]
  | true =>
    change (∃ c, whole = [c] ∧ digitTest.holds c = true) ↔ _
    constructor
    · rintro ⟨c, rfl, hc⟩
      exact ⟨by simp, by simpa [holds_digitTest] using hc, fun _ => rfl⟩
    · rintro ⟨-, hwhole, hsingle⟩
      obtain ⟨c, rfl⟩ := List.length_eq_one_iff.1 (hsingle rfl)
      exact ⟨c, rfl, by simpa [holds_digitTest] using hwhole⟩

theorem describes_fractionTrees_iff :
    (Tree.ofList (fractionTrees digits)).Describes u ↔
      IsFraction isScriptDigit u ∧ u.length = if digits = 0 then 0 else digits + 1 := by
  rw [fractionTrees]
  by_cases hzero : digits = 0
  · rw [if_pos hzero, if_pos hzero]
    change u = [] ↔ _
    constructor
    · rintro rfl
      exact ⟨.none, rfl⟩
    · rintro ⟨-, hlength⟩
      exact List.length_eq_zero_iff.1 hlength
  · rw [if_neg hzero, if_neg hzero, Tree.describes_ofList_cons]
    change (∃ v ds, u = v ++ ds ∧ (∃ c, v = [c] ∧ CharTest.holds c _ = true) ∧
      (Tree.chars digitTest digits (some digits) .greedy).Describes ds) ↔ _
    constructor
    · rintro ⟨_, ds, rfl, ⟨c, rfl, hc⟩, hds⟩
      obtain ⟨hmin, hmax, hall⟩ := describes_digits_iff.1 hds
      obtain rfl := CharTest.holds_literal_iff.1 hc
      refine ⟨.point hall, ?_⟩
      have := hmax digits rfl
      simp
      omega
    · rintro ⟨hfraction, hlength⟩
      cases hfraction with
      | none => cases hlength
      | @point ds hds =>
        have hcount : ds.length = digits := by simpa using hlength
        refine ⟨['.'], ds, rfl, ⟨'.', rfl, CharTest.holds_literal_iff.2 rfl⟩,
          describes_digits_iff.2 ⟨hcount.ge, ?_, hds⟩⟩
        rintro k ⟨⟩
        exact hcount.le

theorem describes_exponentTrees_iff :
    (Tree.ofList (exponentTrees exponential)).Describes u ↔
      IsExponent isScriptDigit u ∧ (u.isEmpty = !exponential) ∧ u.length ≠ 2 := by
  cases exponential with
  | false =>
    change u = [] ↔ _
    constructor
    · rintro rfl
      exact ⟨.none, rfl, by simp⟩
    · rintro ⟨-, hempty, -⟩
      simpa using hempty
  | true =>
    rw [exponentTrees, if_pos rfl, Tree.describes_ofList_cons]
    constructor
    · rintro ⟨_, _, rfl, ⟨e, rfl, he⟩, hrest⟩
      obtain ⟨_, ds, rfl, ⟨s, rfl, hs⟩, hds⟩ := Tree.describes_ofList_cons.1 hrest
      obtain ⟨hmin, -, hall⟩ := describes_digits_iff.1 hds
      obtain rfl := CharTest.holds_literal_iff.1 he
      have hs' : s = '+' ∨ s = '-' := by simpa [holds_oneOf_iff] using hs
      refine ⟨.signed hs' hall, rfl, ?_⟩
      simpa using List.ne_nil_of_length_pos hmin
    · rintro ⟨hexponent, hempty, hcomplete⟩
      cases hexponent with
      | none => cases hempty
      | @signed s ds hs hds =>
        refine ⟨['e'], s :: ds, rfl, ⟨'e', rfl, CharTest.holds_literal_iff.2 rfl⟩,
          Tree.describes_ofList_cons.2 ⟨[s], ds, rfl, ⟨s, rfl, ?_⟩,
            describes_digits_iff.2 ⟨List.length_pos_iff.2 ?_, by simp, hds⟩⟩⟩
        · simpa [holds_oneOf_iff] using hs
        · simpa using hcomplete

theorem describes_realTrees_iff :
    (Tree.ofList (realTrees digits exponential)).Describes u ↔ IsReal digits exponential u := by
  rw [realTrees, List.append_assoc, Tree.describes_ofList_append]
  constructor
  · rintro ⟨_, _, rfl, hwhole, hrest⟩
    obtain ⟨sign, whole, rfl, hsign, hne, hwhole, hsingle⟩ := describes_wholeTrees_iff.1 hwhole
    obtain ⟨fraction, exponent, rfl, hfraction, hexponent⟩ := Tree.describes_ofList_append.1 hrest
    obtain ⟨hfraction, hdecimals⟩ := describes_fractionTrees_iff.1 hfraction
    obtain ⟨hexponent, hexponential, hcomplete⟩ := describes_exponentTrees_iff.1 hexponent
    rw [List.append_assoc]
    exact .intro ⟨hsign, hwhole, hfraction, hexponent⟩ hne hsingle hdecimals hexponential hcomplete
  · rintro ⟨hdecimal, hwhole, hsingle, hdecimals, hexponential, hcomplete⟩
    refine ⟨_, _, (List.append_assoc _ _ _).symm,
      describes_wholeTrees_iff.2 ⟨_, _, rfl, hdecimal.sign, hwhole, hdecimal.whole, hsingle⟩,
      Tree.describes_ofList_append.2 ⟨_, _, rfl, ?_, ?_⟩⟩
    · exact describes_fractionTrees_iff.2 ⟨hdecimal.fraction, hdecimals⟩
    · exact describes_exponentTrees_iff.2 ⟨hdecimal.exponent, hexponential, hcomplete⟩

theorem isPlain_realTrees : ∀ t ∈ realTrees digits exponential, t.isPlain = true := by
  cases exponential <;> by_cases hzero : digits = 0 <;>
    simp [realTrees, wholeTrees, fractionTrees, exponentTrees, signTree, Tree.isPlain, hzero]

theorem describes_real_iff (h : digits ≤ 100) :
    (Kind.real digits exponential).describes u = true ↔ IsReal digits exponential u :=
  (describes_iff (readsTrees_real exponential h) isPlain_realTrees u).trans describes_realTrees_iff

end Pattern

section Ends
variable {digits : Nat} {exponential : Bool} {u fraction : Text}

theorem IsReal.ne_nil (h : IsReal digits exponential u) : u ≠ [] := by
  obtain ⟨-, hwhole, -⟩ := h
  simp [hwhole]

theorem IsReal.isSome_read (h : IsReal digits exponential u) : (Binary64.read u).isSome := by
  obtain ⟨hdecimal, hwhole, -, -, -, hexponent⟩ := h
  exact (Binary64.read_isSome_iff hdecimal).2 ⟨fun hnil => hwhole hnil.1, hexponent⟩

/-- A number with decimals has a point in front of them. -/
theorem exists_decimals (h : IsFraction isScriptDigit fraction)
    (hdecimals : fraction.length = if digits = 0 then 0 else digits + 1) (hpos : 0 < digits) :
    ∃ ds, fraction = '.' :: ds ∧ ds ≠ [] ∧ ∀ c ∈ ds, isScriptDigit c = true := by
  rw [if_neg hpos.ne'] at hdecimals
  cases h with
  | none => cases hdecimals
  | @point ds hds =>
    refine ⟨ds, rfl, ?_, hds⟩
    rintro rfl
    exact hpos.ne (Nat.succ.inj hdecimals)

theorem IsReal.head? (h : IsReal digits exponential u) :
    ∀ c ∈ u.head?, c = '-' ∨ isScriptDigit c = true := by
  obtain ⟨hdecimal, hwhole, -⟩ := h
  intro c hc
  rcases hdecimal.sign with hsign | hsign <;> rw [hsign] at hc
  · rw [List.nil_append, List.head?_append_of_ne_nil _ hwhole] at hc
    exact .inr (hdecimal.whole c (List.mem_of_head? hc))
  · exact .inl (Option.some.inj hc).symm

theorem getLast?_digits {ds : Text} (h : ∀ c ∈ ds, isScriptDigit c = true) :
    ∀ c ∈ ds.getLast?, isScriptDigit c = true := fun c hc => h c (List.mem_of_getLast? hc)

theorem getLast?_fraction (h : IsFraction isScriptDigit fraction)
    (hdecimals : fraction.length = if digits = 0 then 0 else digits + 1) :
    ∀ c ∈ fraction.getLast?, isScriptDigit c = true := by
  rcases Nat.eq_zero_or_pos digits with hzero | hpos
  · rw [List.length_eq_zero_iff.1 (hdecimals.trans (if_pos hzero))]
    simp
  · obtain ⟨ds, rfl, hne, hds⟩ := exists_decimals h hdecimals hpos
    rw [List.getLast?_cons_of_ne_nil hne]
    exact getLast?_digits hds

theorem getLast?_exponent {exponent : Text} (h : IsExponent isScriptDigit exponent)
    (hcomplete : exponent.length ≠ 2) : ∀ c ∈ exponent.getLast?, isScriptDigit c = true := by
  cases h with
  | none => simp
  | @signed s ds hs hds =>
    have hne : ds ≠ [] := by simpa using hcomplete
    rw [List.getLast?_cons_of_ne_nil (by simp), List.getLast?_cons_of_ne_nil hne]
    exact getLast?_digits hds

/-- A number ends with a digit. -/
theorem IsReal.getLast? (h : IsReal digits exponential u) :
    ∀ c ∈ u.getLast?, isScriptDigit c = true := by
  obtain ⟨hdecimal, hwhole, -, hdecimals, -, hexponent⟩ := h
  rw [List.getLast?_append_of_ne_nil _ (by simp [hwhole])]
  exact Text.getLast?_append_of (getLast?_digits hdecimal.whole)
    (Text.getLast?_append_of (getLast?_fraction hdecimal.fraction hdecimals)
      (getLast?_exponent hdecimal.exponent hexponent))

end Ends

/-- A fill that is a digit does not take away what makes a number of a text: behind such a fill a number
has a decimal or no exponent, in front of it a decimal and no exponent, and none stands between. -/
def Robust (f : Format) : Prop :=
  match f.kind with
  | .real digits exponential =>
    isScriptDigit f.alignment.fill = true →
      match f.alignment.kind with
      | .none => True
      | .right => exponential = true → 0 < digits
      | .left => exponential = false ∧ 0 < digits
      | .center => False
  | _ => True

section Unpad
variable {a : Alignment} {digits : Nat} {exponential : Bool} {u : Text} {c : Char}

theorem describes_nil_real (h : digits ≤ 100) :
    (Kind.real digits exponential).describes [] = false := by
  rw [← Bool.not_eq_true, describes_real_iff h]
  exact fun hreal => hreal.ne_nil rfl

/-- A fill that is no digit is at no end of a number. -/
theorem bare_of_not_digit (h : Accepted ⟨a, .real digits exponential⟩)
    (hu : IsReal digits exponential u) (hfill : isScriptDigit a.fill = false) : a.Bare u := by
  constructor
  · intro hpads hhead
    have hstart := h.mayStart_eq_false hpads
    rcases hu.head? _ hhead with hminus | hdigit
    · simp [mayStart, hminus] at hstart
    · rw [hfill] at hdigit
      cases hdigit
  · intro _ hlast
    have hdigit := hu.getLast? _ hlast
    rw [hfill] at hdigit
    cases hdigit

/-- What is between the digits of a number is no digit. -/
theorem separator_beq_eq_false (hc : isScriptDigit c = true) {d : Char}
    (hd : d = '-' ∨ d = '.' ∨ d = 'e' ∨ d = '+') : (d == c) = false := by
  rw [beq_eq_false_iff_ne]
  rintro rfl
  rw [isScriptDigit_separator hd] at hc
  cases hc

theorem dropWhile_unsigned {whole fraction exponent : Text} (hc : isScriptDigit c = true)
    (hfraction : IsFraction isScriptDigit fraction) (hexponent : IsExponent isScriptDigit exponent) :
    (whole ++ (fraction ++ exponent)).dropWhile (· == c) =
      whole.dropWhile (· == c) ++ (fraction ++ exponent) := by
  have hrest : (fraction ++ exponent).dropWhile (· == c) = fraction ++ exponent := by
    refine Text.dropWhile_eq_self_iff_head?.2 fun d hd => separator_beq_eq_false hc ?_
    exact .inr ((hfraction.head?_append hexponent d hd).imp_right .inl)
  rw [List.dropWhile_append]
  split
  next hempty => rw [List.isEmpty_iff.1 hempty, hrest, List.nil_append]
  next => rfl

/-- If fill is taken off the front, a number is left or nothing at all. -/
theorem isSome_read_dropWhile (hc : isScriptDigit c = true) (hu : IsReal digits exponential u)
    (hpos : exponential = true → 0 < digits) :
    u.dropWhile (· == c) = [] ∨ (Binary64.read (u.dropWhile (· == c))).isSome := by
  have hread := hu.isSome_read
  obtain @⟨sign, whole, fraction, exponent, hdecimal, -, -, hdecimals, hexponential, hexponent⟩ := hu
  rcases hdecimal.sign with rfl | rfl
  · have hleft : IsDecimal isScriptDigit [] (whole.dropWhile (· == c)) fraction exponent :=
      { hdecimal with whole := fun d hd => hdecimal.whole d ((List.dropWhile_suffix _).subset hd) }
    have hiff := Binary64.read_isSome_iff hleft
    rw [List.nil_append] at hiff ⊢
    rw [dropWhile_unsigned hc hdecimal.fraction hdecimal.exponent, hiff]
    rcases Nat.eq_zero_or_pos digits with hzero | hpos'
    · have hexp : exponential = false := by
        rw [← Bool.not_eq_true]
        exact fun hexp => (hpos hexp).ne' hzero
      rw [hexp, Bool.not_false, List.isEmpty_iff] at hexponential
      rw [if_pos hzero, List.length_eq_zero_iff] at hdecimals
      rw [hdecimals, hexponential, List.append_nil, List.append_nil]
      exact or_iff_not_imp_left.2 fun hne => ⟨fun hnil => hne hnil.1, nofun⟩
    · obtain ⟨ds, rfl, hne, -⟩ := exists_decimals hdecimal.fraction hdecimals hpos'
      exact .inr ⟨by simp [hne], hexponent⟩
  · refine .inr ?_
    rwa [List.cons_append, List.dropWhile_cons_of_neg]
    simpa using separator_beq_eq_false hc (.inl rfl)

/-- If fill is taken off the end, the point and what is in front of it are left. -/
theorem isSome_read_rdropWhile (hc : isScriptDigit c = true) (hu : IsReal digits false u)
    (hpos : 0 < digits) : (Binary64.read (List.rdropWhile (· == c) u)).isSome := by
  obtain @⟨sign, whole, fraction, exponent, ⟨hsign, hdigits, hfraction, -⟩, hwhole, -, hdecimals,
    hexponential, -⟩ := hu
  rw [Bool.not_false, List.isEmpty_iff] at hexponential
  obtain ⟨ds, rfl, -, hds⟩ := exists_decimals hfraction hdecimals hpos
  have hleft : IsDecimal isScriptDigit sign whole ('.' :: List.rdropWhile (· == c) ds) [] :=
    ⟨hsign, hdigits, .point fun d hd => hds d ((List.rdropWhile_prefix _ _).subset hd), .none⟩
  have hdrop : List.rdropWhile (· == c) (sign ++ (whole ++ ('.' :: ds ++ exponent))) =
      sign ++ (whole ++ ('.' :: List.rdropWhile (· == c) ds ++ [])) := by
    have hpoint := separator_beq_eq_false hc (.inr (.inl rfl))
    simpa [hexponential] using Text.rdropWhile_append_cons (p := (· == c))
      (u := sign ++ whole) (v := ds) hpoint
  rw [hdrop, Binary64.read_isSome_iff hleft]
  exact ⟨fun hnil => hwhole hnil.1, nofun⟩

/-- A number is left of a padded one. -/
theorem isSome_read_unpad {m n : Nat} (h : Accepted ⟨a, .real digits exponential⟩)
    (hrobust : Robust ⟨a, .real digits exponential⟩) (hu : IsReal digits exponential u)
    (hm : a.kind.padsStart = false → m = 0) (hn : a.kind.padsEnd = false → n = 0) :
    (Binary64.read (unpad ⟨a, .real digits exponential⟩
      (List.replicate m a.fill ++ u ++ List.replicate n a.fill))).isSome := by
  have hofBare (hbare : a.Bare u) : (Binary64.read (unpad ⟨a, .real digits exponential⟩
      (List.replicate m a.fill ++ u ++ List.replicate n a.fill))).isSome := by
    rw [unpad_of_bare hm hn hu.ne_nil hbare]
    exact hu.isSome_read
  cases hfill : isScriptDigit a.fill with
  | false => exact hofBare (bare_of_not_digit h hu hfill)
  | true =>
    obtain ⟨kind, width, fill⟩ := a
    have hkind := hrobust hfill
    cases kind with
    | none => exact hofBare ⟨nofun, nofun⟩
    | right =>
      rw [hn rfl, List.replicate_zero, List.append_nil,
        unpad_right (f := ⟨⟨.right, width, fill⟩, .real digits exponential⟩) rfl
          (describes_nil_real h.inRange) hu.ne_nil]
      split
      next =>
        have hdigit : IsDecimal isScriptDigit [] [fill] [] [] :=
          ⟨.inl rfl, by simpa using hfill, .none, .none⟩
        exact (Binary64.read_isSome_iff hdigit).2 ⟨by simp, nofun⟩
      next hne => exact (isSome_read_dropWhile hfill hu hkind).resolve_left hne
    | left =>
      obtain ⟨rfl, hpos⟩ := hkind
      have hread := isSome_read_rdropWhile hfill hu hpos
      rw [unpad, Alignment.unpad_replicate hm hn]
      have hne : List.rdropWhile (· == fill) u ≠ [] := by
        intro hnil
        rw [hnil] at hread
        cases hread
      rwa [if_neg fun hnil => hne hnil.1]
    | center => exact hkind.elim

end Unpad

end Stencil.Format
