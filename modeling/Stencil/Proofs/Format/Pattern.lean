import Stencil.Format
import Stencil.Proofs.Alignment
import Stencil.Proofs.Numeral
import Stencil.Proofs.Regex.Lengths
import Stencil.Proofs.Regex.Reading

/-! # Patterns of formats

The expressions of integers and real numbers, with the padding around them, are read as sequences of
tests and repetitions.  What such a pattern describes is padding, an unaligned value and padding.
-/
namespace Stencil
open Regex (Tree CharTest)

/-- A literal character is passed by itself only. -/
theorem Regex.CharTest.holds_literal_iff {c d : Char} :
    (literal d.toNat false .exact).holds c = true ↔ c = d := by
  simp [holds, Char.toNat_inj]

namespace Alignment

/-- Any number of fill characters. -/
def paddingTree (a : Alignment) : Tree := .chars (.literal a.fill.toNat false .exact) 0 none .greedy

/-- What is read in front of the values. -/
def before (a : Alignment) : List Tree := if a.kind.padsStart then [a.paddingTree] else []

/-- What is read behind the values. -/
def behind (a : Alignment) : List Tree := if a.kind.padsEnd then [a.paddingTree] else []

end Alignment

namespace Regex.Parse

/-- A text that is read as the given trees, one after the other. -/
def ReadsTrees (t : Text) (ts : List Tree) : Prop :=
  ∃ ps, Reads t ps ∧ (Piece.opened ps).map Piece.tree = ts ∧ ∀ u ∈ ts, Settled u

variable {t u : Text} {ts us : List Tree}

theorem opened_append (ps qs : List Piece) :
    Piece.opened (ps ++ qs) = Piece.opened ps ++ Piece.opened qs := List.flatMap_append

theorem readsTrees_nil : ReadsTrees [] [] := ⟨[], reads_nil, rfl, by simp⟩

theorem ReadsTrees.append (ht : ReadsTrees t ts) (hu : ReadsTrees u us) :
    ReadsTrees (t ++ u) (ts ++ us) := by
  obtain ⟨ps, hps, rfl, hsettled⟩ := ht
  obtain ⟨qs, hqs, rfl, hsettled'⟩ := hu
  refine ⟨ps ++ qs, hps.append hqs, by rw [opened_append, List.map_append], ?_⟩
  intro v hv
  exact (List.mem_append.1 hv).elim (hsettled v) (hsettled' v)

/-- A group that captures nothing is read as what is in it. -/
theorem ReadsTrees.group (ht : ReadsTrees t ts) : ReadsTrees ("(?:".toList ++ t ++ [')']) ts := by
  obtain ⟨ps, hps, rfl, hsettled⟩ := ht
  refine ⟨[.plainGroup (Piece.opened ps)], hps.atom_group.reads (by simp), ?_, hsettled⟩
  simp [Piece.opened, Piece.open?]

theorem ReadsTrees.compile_eq (ht : ReadsTrees t ts) : compile t = .ok ⟨t, .ofList ts⟩ := by
  obtain ⟨ps, hps, hts, hsettled⟩ := ht
  exact hps.compile_eq hts hsettled

theorem ReadsTrees.exists_reads (ht : ReadsTrees t ts) :
    ∃ ps, Reads t ps ∧ ∀ p ∈ Piece.opened ps, p.tree.fault? false = none := by
  obtain ⟨ps, hps, rfl, hsettled⟩ := ht
  exact ⟨ps, hps, fun p hp => (hsettled p.tree (List.mem_map_of_mem hp)).2⟩

section Tests
variable {test : CharTest}

/-- One character that passes a test. -/
theorem Atom.readsTrees (h : Atom t (.test test)) (hne : t ≠ []) (hsettle : test.settle = test) :
    ReadsTrees t [.char test] := by
  refine ⟨[.test test], h.reads hne, rfl, ?_⟩
  intro u hu
  rw [List.mem_singleton.1 hu]
  exact settled_char hsettle

/-- Repeated characters that pass a test. -/
theorem Atom.readsTrees_quantified {q : Char} {more : Text} {min : Nat} {max : Option Nat}
    (h : Atom t (.test test)) (hne : t ≠ []) (hsettle : test.settle = test)
    (hsign : Sign q more min max) : ReadsTrees (t ++ q :: more) [.chars test min max .greedy] := by
  refine ⟨_, h.quantified hne rfl hsign, rfl, ?_⟩
  intro u hu
  rw [List.mem_singleton.1 hu]
  exact settled_chars hsettle min max .greedy

end Tests
end Regex.Parse

open Regex.Parse

namespace Alignment

theorem readsTrees_padding (a : Alignment) : ReadsTrees a.paddingExpression [a.paddingTree] := by
  have hne : Regex.escape [a.fill] ≠ [] := by
    rw [Regex.escape, List.flatMap_singleton]
    split <;> simp
  have hexpression : a.paddingExpression =
      "(?:".toList ++ Regex.escape [a.fill] ++ [')'] ++ ['*'] := by
    change "(?:".toList ++ Regex.escape [a.fill] ++ ")*".toList = _
    simp
  have hpadding := ((atom_escaped a.fill).reads hne).atom_group.quantified (by simp) rfl sign_star
  rw [hexpression]
  refine ⟨_, hpadding, rfl, ?_⟩
  intro u hu
  rw [List.mem_singleton.1 hu]
  exact settled_chars (Regex.CharTest.settle_literal _ _) 0 none .greedy

/-- The aligned expression is read as the padding and the trees of the expression. -/
theorem readsTrees_around (a : Alignment) {t : Text} {ts : List Tree} (h : ReadsTrees t ts) :
    ReadsTrees (a.around t) (a.before ++ ts ++ a.behind) := by
  obtain ⟨kind, width, fill⟩ := a
  cases kind with
  | none => simpa [around, before, behind] using h
  | left =>
    have hright := h.group.append (readsTrees_padding ⟨.left, width, fill⟩)
    simpa [around, before, behind] using hright
  | right =>
    have hleft := (readsTrees_padding ⟨.right, width, fill⟩).append h.group
    simpa [around, before, behind] using hleft
  | center =>
    have hboth := ((readsTrees_padding ⟨.center, width, fill⟩).append h.group).append
      (readsTrees_padding ⟨.center, width, fill⟩)
    simpa [around, before, behind] using hboth

end Alignment

namespace Format.Kind

/-- A minus sign or nothing. -/
def signTree : Tree := .chars (.literal '-'.toNat false .exact) 0 (some 1) .greedy

/-- A decimal digit of any script. -/
def digitTest : CharTest := .set [.category .digit false false] false .exact

/-- A point and the decimals behind it, if there are any. -/
def fractionTrees (digits : Nat) : List Tree :=
  if digits = 0 then []
  else [.char (.literal '.'.toNat false .exact), .chars digitTest digits (some digits) .greedy]

def integerTrees (base : Nat) : List Tree :=
  [signTree, .chars (oneOf (Numeral.digitChars base)) 1 none .greedy]

/-- A sign and whole digits, or just one of them in front of an exponent. -/
def wholeTrees (exponential : Bool) : List Tree :=
  [signTree, if exponential then .char digitTest else .chars digitTest 1 none .greedy]

def exponentTrees (exponential : Bool) : List Tree :=
  if exponential then
    [.char (.literal 'e'.toNat false .exact), .char (oneOf ['+', '-']),
      .chars digitTest 1 none .greedy]
  else []

def realTrees (digits : Nat) (exponential : Bool) : List Tree :=
  wholeTrees exponential ++ fractionTrees digits ++ exponentTrees exponential

theorem expression_integer (base : Nat) :
    expression (.integer base) = "-?[".toList ++ Numeral.alphabet.take base ++
      (Numeral.alphabet.take base).map Text.asciiUpper ++ "]+".toList := rfl

theorem expression_real_false (digits : Nat) :
    expression (.real digits false) = "-?\\d+".toList ++ fractionExpression digits := rfl

theorem expression_real_true (digits : Nat) :
    expression (.real digits true) =
      "-?\\d".toList ++ fractionExpression digits ++ "e[+-]\\d+".toList := rfl

theorem readsTrees_sign : ReadsTrees "-?".toList [signTree] :=
  (atom_literal (by decide)).readsTrees_quantified (by simp) (Regex.CharTest.settle_literal _ _) sign_opt

theorem describes_signTree_iff {u : Text} :
    signTree.Describes u ↔ u = [] ∨ u = ['-'] := by
  constructor
  · rintro ⟨-, hmax, hall⟩
    have hle : u.length ≤ 1 := hmax 1 rfl
    match u, hle with
    | [], _ => exact .inl rfl
    | [c], _ =>
      obtain rfl := CharTest.holds_literal_iff.1 (hall c List.mem_cons_self)
      exact .inr rfl
  · rintro (rfl | rfl)
    · exact ⟨Nat.zero_le _, by simp, by simp⟩
    · exact ⟨Nat.zero_le _, by simp, by simp [CharTest.holds]⟩

theorem atom_digit : Atom "\\d".toList (.test digitTest) := atom_escape (escape_category rfl)

theorem readsTrees_digits : ReadsTrees "\\d+".toList [.chars digitTest 1 none .greedy] :=
  atom_digit.readsTrees_quantified (by simp) (Regex.CharTest.settle_set _ _) sign_plus

theorem readsTrees_integer {base : Nat} (h2 : 2 ≤ base) (h36 : base ≤ 36) :
    ReadsTrees (expression (.integer base)) (integerTrees base) := by
  have hoperators : ∀ c ∈ Numeral.digitChars base, c ∉ setOperators := by
    intro c hc hoperator
    obtain ⟨d, -, hvalue⟩ := Numeral.digitValue_of_mem_digitChars h36 hc
    have hnone : (setOperators.all fun c => (Numeral.digitValue c).isNone) = true := by decide
    have hc' := List.all_eq_true.1 hnone c hoperator
    rw [hvalue] at hc'
    cases hc'
  have hne := List.ne_nil_of_mem (Numeral.zero_mem_digitChars h2 h36)
  have hset := (atom_set hoperators hne).readsTrees_quantified (by simp) (settle_oneOf _) sign_plus
  have h := readsTrees_sign.append hset
  rw [expression_integer]
  simpa [Numeral.digitChars, integerTrees] using h

/-- Counts of decimals are written with digits and read back. -/
theorem sign_decimals {digits : Nat} (h : digits ≤ 100) :
    Sign '\x7b' (Text.ofNat digits ++ ['\x7d']) digits (some digits) := by
  have hall : ∀ n < 101, Text.ofNat n ≠ [] ∧ (Text.ofNat n).all Char.isDigit = true ∧
      Numeral.read 10 (Text.ofNat n) = .ok n := by
    decide +kernel
  obtain ⟨hne, hdigit, hread⟩ := hall digits (by omega)
  exact sign_braces hne (List.all_eq_true.1 hdigit) hread (by omega)

theorem readsTrees_point :
    ReadsTrees "\\.".toList [.char (.literal '.'.toNat false .exact)] :=
  (atom_escape (escape_special (by decide))).readsTrees (by simp) (Regex.CharTest.settle_literal _ _)

theorem readsTrees_fraction {digits : Nat} (h : digits ≤ 100) :
    ReadsTrees (fractionExpression digits) (fractionTrees digits) := by
  by_cases hzero : digits = 0
  · rw [fractionExpression, fractionTrees, if_pos hzero, if_pos hzero]
    exact readsTrees_nil
  · rw [fractionExpression, fractionTrees, if_neg hzero, if_neg hzero]
    have hdecimals := atom_digit.readsTrees_quantified (by simp) (Regex.CharTest.settle_set _ _)
      (sign_decimals h)
    simpa using readsTrees_point.append hdecimals

theorem readsTrees_real {digits : Nat} (exponential : Bool) (h : digits ≤ 100) :
    ReadsTrees (expression (.real digits exponential)) (realTrees digits exponential) := by
  cases exponential with
  | false =>
    have hreal := (readsTrees_sign.append readsTrees_digits).append (readsTrees_fraction h)
    rw [expression_real_false]
    simpa [realTrees, wholeTrees, exponentTrees] using hreal
  | true =>
    have hdigit := atom_digit.readsTrees (by simp) (Regex.CharTest.settle_set _ _)
    have hletter := (atom_literal (c := 'e') (by decide)).readsTrees (by simp)
      (Regex.CharTest.settle_literal _ _)
    have hset := (atom_set_minus (c := '+') (by decide)).readsTrees (by simp) (settle_oneOf _)
    have hexponent := (hletter.append hset).append readsTrees_digits
    have hreal := ((readsTrees_sign.append hdigit).append (readsTrees_fraction h)).append hexponent
    rw [expression_real_true]
    simpa [realTrees, wholeTrees, exponentTrees] using hreal

end Format.Kind

namespace Format

/-- What is found is read as padding, the trees of the values and padding. -/
theorem pattern_eq {f : Format} {ts : List Tree} (h : ReadsTrees f.kind.expression ts) :
    f.pattern = .ok ⟨f.alignment.around f.kind.expression,
      .ofList (f.alignment.before ++ ts ++ f.alignment.behind)⟩ :=
  (f.alignment.readsTrees_around h).compile_eq

theorem describes_iff {k : Kind} {ts : List Tree} (h : ReadsTrees k.expression ts)
    (hplain : ∀ t ∈ ts, t.isPlain = true) (u : Text) :
    k.describes u = true ↔ (Tree.ofList ts).Describes u := by
  rw [Kind.describes, h.compile_eq]
  exact Regex.matchesAll_iff (Tree.isPlain_ofList hplain) u

end Format

namespace Alignment
variable {a : Alignment} {ts : List Tree}

theorem isPlain_around (h : ∀ t ∈ ts, t.isPlain = true) :
    ∀ t ∈ a.before ++ ts ++ a.behind, t.isPlain = true := by
  have hpadding : ∀ (pads : Bool), ∀ t ∈ if pads then [a.paddingTree] else [], t.isPlain = true := by
    rintro (_ | _) t ht
    · cases ht
    · rw [List.mem_singleton.1 ht]
      rfl
  intro t ht
  rcases List.mem_append.1 ht with ht | ht
  · exact (List.mem_append.1 ht).elim (hpadding _ t) (h t)
  · exact hpadding _ t ht

theorem describes_padding_iff {pads : Bool} {u : Text} :
    (Tree.ofList (if pads then [a.paddingTree] else [])).Describes u ↔
      ∃ n, u = List.replicate n a.fill ∧ (pads = false → n = 0) := by
  cases pads with
  | false =>
    constructor
    · intro h
      exact ⟨0, h, fun _ => rfl⟩
    · rintro ⟨n, rfl, hn⟩
      rw [hn rfl]
      rfl
  | true =>
    constructor
    · intro h
      exact ⟨u.length, List.eq_replicate_of_mem fun c hc => CharTest.holds_literal_iff.1 (h.2.2 c hc), nofun⟩
    · rintro ⟨n, rfl, -⟩
      exact ⟨Nat.zero_le _, nofun, fun c hc => CharTest.holds_literal_iff.2 (List.eq_of_mem_replicate hc)⟩

/-- What is described with padding is a value between fill characters on padded sides. -/
theorem describes_around_iff {u : Text} :
    (Tree.ofList (a.before ++ ts ++ a.behind)).Describes u ↔
      ∃ m v n, u = List.replicate m a.fill ++ v ++ List.replicate n a.fill ∧
        (a.kind.padsStart = false → m = 0) ∧ (a.kind.padsEnd = false → n = 0) ∧
          (Tree.ofList ts).Describes v := by
  rw [Tree.describes_ofList_append]
  constructor
  · rintro ⟨u, q, rfl, hu, hq⟩
    obtain ⟨p, v, rfl, hp, hv⟩ := Tree.describes_ofList_append.1 hu
    obtain ⟨m, rfl, hm⟩ := describes_padding_iff.1 hp
    obtain ⟨n, rfl, hn⟩ := describes_padding_iff.1 hq
    exact ⟨m, v, n, rfl, hm, hn, hv⟩
  · rintro ⟨m, v, n, rfl, hm, hn, hv⟩
    refine ⟨_, _, rfl, Tree.describes_ofList_append.2 ⟨_, v, rfl, ?_, hv⟩, ?_⟩
    · exact describes_padding_iff.2 ⟨m, rfl, hm⟩
    · exact describes_padding_iff.2 ⟨n, rfl, hn⟩

section Takes
variable {u v : Text}

/-- Padding is taken up to a character that is none. -/
theorem takes_padding {pads : Bool} {n : Nat} (hn : pads = false → n = 0)
    (hv : pads = true → ∀ c ∈ v.head?, c ≠ a.fill) :
    (Tree.ofList (if pads then [a.paddingTree] else [])).Takes (List.replicate n a.fill) v := by
  cases pads with
  | false =>
    rw [hn rfl]
    exact Tree.takes_empty v
  | true =>
    refine Tree.takes_greedy (Nat.zero_le _) (Regex.runLength_append ?_ ?_ nofun)
    · intro c hc
      exact CharTest.holds_literal_iff.2 (List.eq_of_mem_replicate hc)
    · intro c hc
      rw [← Bool.not_eq_true, CharTest.holds_literal_iff]
      exact hv rfl c hc

/-- A value that does not start with the fill is taken with its padding. -/
theorem takes_around {m n : Nat} (hm : a.kind.padsStart = false → m = 0)
    (hn : a.kind.padsEnd = false → n = 0) (hne : u ≠ [])
    (hstart : a.kind.padsStart = true → u.head? ≠ some a.fill)
    (hts : (Tree.ofList ts).Takes u (List.replicate n a.fill ++ v))
    (hv : a.kind.padsEnd = true → ∀ c ∈ v.head?, c ≠ a.fill) :
    (Tree.ofList (a.before ++ ts ++ a.behind)).Takes
      (List.replicate m a.fill ++ u ++ List.replicate n a.fill) v := by
  have hbefore : (Tree.ofList a.before).Takes (List.replicate m a.fill)
      (u ++ (List.replicate n a.fill ++ v)) := by
    refine takes_padding hm fun hpads c hc => ?_
    rw [List.head?_append_of_ne_nil _ hne] at hc
    rintro rfl
    exact hstart hpads hc
  exact (hbefore.append hts).append (takes_padding hn hv)

end Takes

end Alignment

namespace Format

/-- What the pattern of a format captures is a value between fill characters on padded sides. -/
theorem describes_of_captured {f : Format} {ts : List Tree} (h : ReadsTrees f.kind.expression ts)
    (hplain : ∀ t ∈ ts, t.isPlain = true) {r : Regex} (hr : f.pattern = .ok r) {text : Text} {n : Nat}
    (hn : r.matchLength text = some n) :
    ∃ m u k, text.take n = List.replicate m f.alignment.fill ++ u ++ List.replicate k f.alignment.fill ∧
      (f.alignment.kind.padsStart = false → m = 0) ∧ (f.alignment.kind.padsEnd = false → k = 0) ∧
        (Tree.ofList ts).Describes u := by
  obtain rfl := Except.ok.inj ((pattern_eq h).symm.trans hr)
  exact Alignment.describes_around_iff.1
    (Regex.describes_of_matchLength (Tree.isPlain_ofList (Alignment.isPlain_around hplain)) hn)

end Format
end Stencil
