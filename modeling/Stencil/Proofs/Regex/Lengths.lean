import Stencil.Regex
import Stencil.Proofs.Text

/-! # Lengths that a tree can match

A plain tree looks at no character but those that it takes.  What it can match of a text is then a
list of lengths, in the order in which the matcher tries them: the first one is the length that is
matched, and the whole text is matched if its length is one of them.
-/
namespace Stencil.Regex

theorem findSome?_flatMap {α β γ : Type} (l : List α) (f : α → List β) (g : β → Option γ) :
    (l.flatMap f).findSome? g = l.findSome? fun a => (f a).findSome? g := by
  induction l with
  | nil => rfl
  | cons a l ih =>
    rw [List.flatMap_cons, List.findSome?_append, ih, List.findSome?_cons]
    cases (f a).findSome? g <;> rfl

namespace Cursor

/-- The place `n` characters further on. -/
def forward (c : Cursor) (n : Nat) : Cursor :=
  ⟨(c.rest.take n).reverse ++ c.before, c.rest.drop n, c.position + n⟩

@[simp] theorem forward_rest (c : Cursor) (n : Nat) : (c.forward n).rest = c.rest.drop n := rfl

@[simp] theorem forward_zero (c : Cursor) : c.forward 0 = c := rfl

theorem forward_forward (c : Cursor) (m n : Nat) : (c.forward m).forward n = c.forward (m + n) := by
  simp [forward, List.drop_drop, List.take_add, Nat.add_assoc]

theorem forward_cons_succ (before rest : Text) (d : Char) (position n : Nat) :
    forward ⟨before, d :: rest, position⟩ (n + 1) = forward ⟨d :: before, rest, position + 1⟩ n := by
  simp [forward, Nat.add_assoc, Nat.add_comm 1]

end Cursor

/-- How many of the first characters pass a test, if no more than `limit` may be taken. -/
def runLength (test : CharTest) (limit : Option Nat) (text : Text) : Nat :=
  limit.elim (text.takeWhile test.holds).length (min (text.takeWhile test.holds).length)

/-- The run is the longest beginning of characters that pass, within the limit. -/
theorem le_runLength_iff {test : CharTest} {limit : Option Nat} {text : Text} {n : Nat} :
    n ≤ runLength test limit text ↔
      n ≤ text.length ∧ (∀ k ∈ limit, n ≤ k) ∧ ∀ c ∈ text.take n, test.holds c = true := by
  have hrun : n ≤ (text.takeWhile test.holds).length ↔
      n ≤ text.length ∧ ∀ c ∈ text.take n, test.holds c = true := by
    induction text generalizing n with
    | nil => simp
    | cons d rest ih =>
      cases n with
      | zero => simp
      | succ n =>
        by_cases hd : test.holds d = true
        · simp [hd, ih]
        · simp [hd]
  cases limit with
  | none => simp [runLength, hrun]
  | some k => simp [runLength, hrun, and_left_comm, and_comm]

/-- A run of characters that pass a test, in front of one that does not. -/
theorem runLength_append {test : CharTest} {limit : Option Nat} {u v : Text}
    (hu : ∀ c ∈ u, test.holds c = true) (hv : ∀ c ∈ v.head?, test.holds c = false)
    (hlimit : ∀ k ∈ limit, u.length ≤ k) : runLength test limit (u ++ v) = u.length := by
  obtain ⟨htake, -⟩ := Text.takeWhile_append_of_stop hu hv
  cases limit with
  | none => rw [runLength, htake, Option.elim_none]
  | some k =>
    rw [runLength, htake, Option.elim_some]
    exact Nat.min_eq_left (hlimit k rfl)

theorem reach_eq (test : CharTest) (limit : Option Nat) (before : Text) (position : Nat)
    (text : Text) :
    Cursor.reach test limit before position text =
      (List.range (runLength test limit text + 1)).map (Cursor.forward ⟨before, text, position⟩) := by
  induction text generalizing limit before position with
  | nil => cases limit <;> simp [Cursor.reach, runLength]
  | cons d rest ih =>
    rw [Cursor.reach, List.range_succ_eq_map, List.map_cons, List.map_map]
    congr 1
    split
    next h =>
      have hrun : runLength test limit (d :: rest) = runLength test (limit.map (· - 1)) rest + 1 := by
        cases limit with
        | none => simp [runLength, h.2]
        | some k =>
          have hk : k ≠ 0 := fun hk => h.1 (congrArg some hk)
          simp only [runLength, h.2, List.takeWhile_cons_of_pos, List.length_cons, Option.elim_some,
            Option.map_some]
          omega
      rw [ih, hrun]
      exact List.map_congr_left fun n _ => (Cursor.forward_cons_succ before rest d position n).symm
    next h =>
      have hrun : runLength test limit (d :: rest) = 0 := by
        by_cases hd : test.holds d = true
        · have hlimit : limit = some 0 := by
            by_contra hne
            exact h ⟨hne, hd⟩
          simp [runLength, hlimit]
        · cases limit <;> simp [runLength, hd]
      rw [hrun]
      rfl

/-- The order in which a repetition tries its counts, which are given from the least on. -/
def Mode.order (counts : List Nat) : Mode → List Nat
  | greedy => counts.reverse
  | lazy => counts
  | possessive => counts.getLast?.toList

namespace Tree

/-- Built from tests and their repetitions only, and every repetition can give characters back. -/
def isPlain : Tree → Bool
  | empty => true
  | char _ => true
  | cat a b => a.isPlain && b.isPlain
  | alt a b => a.isPlain && b.isPlain
  | chars _ _ _ mode => mode != .possessive
  | _ => false

/-- The lengths of what a plain tree can match in front of a text, the preferred one first. -/
def lengths : Tree → Text → List Nat
  | empty, _ => [0]
  | char test, text => if text.head?.any test.holds then [1] else []
  | cat a b, text => (a.lengths text).flatMap fun n => (b.lengths (text.drop n)).map (n + ·)
  | alt a b, text => a.lengths text ++ b.lengths text
  | chars test min max mode, text =>
    mode.order ((List.range (runLength test max text + 1)).drop min)
  | _, _ => []

/-- Matching a plain tree tries the rest of the expression behind one length after the other. -/
theorem run_eq_findSome? {t : Tree} (h : t.isPlain = true) (c : Cursor) (k : Captures)
    (next : Continuation) :
    t.run c k next = (t.lengths c.rest).findSome? fun n => next (c.forward n) k := by
  induction t generalizing c k next with
  | empty => simp [run, lengths]
  | char test =>
    obtain ⟨before, rest, position⟩ := c
    cases rest with
    | nil => simp [run, lengths, Cursor.next?]
    | cons d rest =>
      by_cases hd : test.holds d = true
      · simp [run, lengths, Cursor.next?, hd, Cursor.forward]
      · simp [run, lengths, Cursor.next?, hd]
  | cat a b iha ihb =>
    rw [isPlain, Bool.and_eq_true] at h
    rw [run, lengths, findSome?_flatMap]
    change a.run c k _ = _
    rw [iha h.1]
    congr 1
    funext n
    simp only [ihb h.2, List.findSome?_map, Cursor.forward_rest,
      Cursor.forward_forward]
    rfl
  | alt a b iha ihb =>
    rw [isPlain, Bool.and_eq_true] at h
    rw [run, lengths, List.findSome?_append, ← iha h.1, ← ihb h.2]
    dsimp only
    cases a.run c k next <;> rfl
  | chars test min max mode =>
    rw [run, lengths]
    dsimp only
    rw [reach_eq, ← List.map_drop]
    cases mode with
    | greedy => simp only [← List.map_reverse, List.findSome?_map]; rfl
    | lazy => simp only [List.findSome?_map]; rfl
    | possessive => cases h
  | _ => cases h

/-- The length that a plain tree matches. -/
def first? (t : Tree) (text : Text) : Option Nat := (t.lengths text).head?

theorem first?_cat (a b : Tree) (text : Text) :
    (cat a b).first? text =
      (a.lengths text).findSome? fun n => (b.first? (text.drop n)).map (n + ·) := by
  rw [first?, lengths, List.head?_flatMap]
  simp only [List.head?_map]
  rfl

theorem mem_lengths_chars {test : CharTest} {min n : Nat} {max : Option Nat} {mode : Mode}
    {text : Text} (h : mode ≠ .possessive) :
    n ∈ (chars test min max mode).lengths text ↔ min ≤ n ∧ n ≤ runLength test max text := by
  have horder : n ∈ (chars test min max mode).lengths text ↔
      n ∈ (List.range (runLength test max text + 1)).drop min := by
    cases mode with
    | greedy => exact List.mem_reverse
    | lazy => rfl
    | possessive => exact absurd rfl h
  rw [horder, List.mem_drop_iff_getElem]
  simp only [List.getElem_range, List.length_range]
  constructor
  · rintro ⟨i, hi, rfl⟩
    omega
  · rintro ⟨hmin, hrun⟩
    exact ⟨n - min, by omega, by omega⟩

/-- What a plain tree describes, whatever stands behind it. -/
def Describes : Tree → Text → Prop
  | empty, u => u = []
  | char test, u => ∃ c, u = [c] ∧ test.holds c = true
  | cat a b, u => ∃ v w, u = v ++ w ∧ a.Describes v ∧ b.Describes w
  | alt a b, u => a.Describes u ∨ b.Describes u
  | chars test min max _, u =>
    min ≤ u.length ∧ (∀ k ∈ max, u.length ≤ k) ∧ ∀ c ∈ u, test.holds c = true
  | _, _ => False

/-- The lengths that can be matched are those of the beginnings that are described. -/
def LengthsDescribed (t : Tree) : Prop :=
  ∀ (text : Text) (n : Nat), n ∈ t.lengths text ↔ n ≤ text.length ∧ t.Describes (text.take n)

theorem lengthsDescribed_empty : empty.LengthsDescribed := by
  intro text n
  rw [lengths, List.mem_singleton, Describes, List.take_eq_nil_iff]
  constructor
  · rintro rfl
    exact ⟨Nat.zero_le _, .inl rfl⟩
  · rintro ⟨hle, rfl | rfl⟩
    · rfl
    · exact Nat.le_zero.1 hle

theorem lengthsDescribed_char (test : CharTest) : (char test).LengthsDescribed := by
  intro text n
  cases text with
  | nil => simp [lengths, Describes]
  | cons d rest =>
    have hlengths : n ∈ (char test).lengths (d :: rest) ↔ n = 1 ∧ test.holds d = true := by
      by_cases hd : test.holds d = true <;> simp [lengths, hd]
    rw [hlengths, Describes]
    constructor
    · rintro ⟨rfl, hd⟩
      exact ⟨by simp, d, rfl, hd⟩
    · rintro ⟨hle, c, htake, hc⟩
      obtain rfl : n = 1 := by
        have hlength := congrArg List.length htake
        rwa [List.length_take, Nat.min_eq_left hle] at hlength
      obtain rfl : d = c := by simpa using htake
      exact ⟨rfl, hc⟩

theorem LengthsDescribed.cat {a b : Tree} (ha : a.LengthsDescribed) (hb : b.LengthsDescribed) :
    (cat a b).LengthsDescribed := by
  intro text n
  rw [lengths, List.mem_flatMap]
  constructor
  · rintro ⟨m, hm, hn⟩
    obtain ⟨k, hk, rfl⟩ := List.mem_map.1 hn
    obtain ⟨hle, hdescribes⟩ := (ha _ _).1 hm
    obtain ⟨hle', hdescribes'⟩ := (hb _ _).1 hk
    rw [List.length_drop] at hle'
    exact ⟨by omega, _, _, List.take_add, hdescribes, hdescribes'⟩
  · rintro ⟨hle, v, w, heq, hv, hw⟩
    have hlength := congrArg List.length heq
    rw [List.length_take, Nat.min_eq_left hle, List.length_append] at hlength
    have htext : text = v ++ (w ++ text.drop n) := by
      rw [← List.append_assoc, ← heq, List.take_append_drop]
    have hfront : text.take v.length = v := by conv_lhs => rw [htext, List.take_left]
    have hbehind : text.drop v.length = w ++ text.drop n := by
      conv_lhs => rw [htext, List.drop_left]
    refine ⟨v.length, (ha _ _).2 ⟨by omega, by rwa [hfront]⟩, ?_⟩
    refine List.mem_map.2 ⟨w.length, ?_, hlength.symm⟩
    rw [hbehind]
    exact (hb _ _).2 ⟨by simp, by rwa [List.take_left]⟩

theorem LengthsDescribed.alt {a b : Tree} (ha : a.LengthsDescribed) (hb : b.LengthsDescribed) :
    (alt a b).LengthsDescribed := by
  intro text n
  rw [lengths, List.mem_append, ha, hb, ← and_or_left]
  rfl

theorem lengthsDescribed_chars (test : CharTest) (min : Nat) (max : Option Nat) {mode : Mode}
    (h : mode ≠ .possessive) : (chars test min max mode).LengthsDescribed := by
  intro text n
  rw [mem_lengths_chars h, le_runLength_iff, Describes]
  constructor
  · rintro ⟨hmin, hle, hmax, hall⟩
    have hlength : (text.take n).length = n := by rw [List.length_take, Nat.min_eq_left hle]
    exact ⟨hle, by rwa [hlength], by rwa [hlength], hall⟩
  · rintro ⟨hle, hmin, hmax, hall⟩
    have hlength : (text.take n).length = n := by rw [List.length_take, Nat.min_eq_left hle]
    rw [hlength] at hmin hmax
    exact ⟨hmin, hle, hmax, hall⟩

/-- A length can be matched exactly if the beginning of this length is described. -/
theorem mem_lengths_iff {t : Tree} (h : t.isPlain = true) {text : Text} {n : Nat} :
    n ∈ t.lengths text ↔ n ≤ text.length ∧ t.Describes (text.take n) := by
  have hdescribed : t.LengthsDescribed := by
    induction t with
    | empty => exact lengthsDescribed_empty
    | char test => exact lengthsDescribed_char test
    | cat a b iha ihb =>
      obtain ⟨ha, hb⟩ := Bool.and_eq_true_iff.1 h
      exact (iha ha).cat (ihb hb)
    | alt a b iha ihb =>
      obtain ⟨ha, hb⟩ := Bool.and_eq_true_iff.1 h
      exact (iha ha).alt (ihb hb)
    | chars test min max mode =>
      refine lengthsDescribed_chars test min max ?_
      rintro rfl
      cases h
    | _ => cases h
  exact hdescribed text n

/-- The tree matches exactly the text `u` in front of `v`. -/
def Takes (t : Tree) (u v : Text) : Prop := t.first? (u ++ v) = some u.length

theorem takes_empty (v : Text) : empty.Takes [] v := rfl

/-- If the rest can be matched behind what the first tree matches, nothing else is tried. -/
theorem Takes.cat {a b : Tree} {u w v : Text} (ha : a.Takes u (w ++ v)) (hb : b.Takes w v) :
    (cat a b).Takes (u ++ w) v := by
  obtain ⟨rest, hlengths⟩ := List.head?_eq_some_iff.1 ha
  rw [Takes, List.append_assoc, first?_cat, hlengths, List.findSome?_cons, List.drop_left,
    show b.first? (w ++ v) = _ from hb, List.length_append]
  rfl

section Greedy
variable {test : CharTest} {min : Nat} {max : Option Nat} {u v : Text}

theorem first?_greedy {text : Text} (h : min ≤ runLength test max text) :
    (chars test min max .greedy).first? text = some (runLength test max text) := by
  rw [first?, lengths, Mode.order, List.head?_reverse, List.getLast?_drop, List.getLast?_range]
  simp
  omega

/-- A greedy repetition takes all characters that pass. -/
theorem takes_greedy (hmin : min ≤ u.length) (hrun : runLength test max (u ++ v) = u.length) :
    (chars test min max .greedy).Takes u v := by
  rw [Takes, first?_greedy (by rwa [hrun]), hrun]

/-- A greedy repetition gives a character back if the rest cannot be matched behind all of them. -/
theorem takes_cat_greedy_back {b : Tree} {c : Char} (hmin : min ≤ u.length)
    (hrun : runLength test max (u ++ ([c] ++ v)) = u.length + 1) (hfail : b.first? v = none)
    (hb : b.Takes [c] v) : (Tree.cat (chars test min max .greedy) b).Takes (u ++ [c]) v := by
  have hlengths : (chars test min max .greedy).lengths (u ++ ([c] ++ v)) =
      (u.length + 1) :: u.length :: ((List.range u.length).drop min).reverse := by
    rw [lengths, Mode.order, hrun, List.range_succ, List.range_succ,
      List.drop_append_of_le_length (by simp; omega), List.drop_append_of_le_length (by simp; omega)]
    simp
  have hdrop : (u ++ ([c] ++ v)).drop (u.length + 1) = v := by
    rw [← List.append_assoc, ← List.length_singleton (a := c), ← List.length_append, List.drop_left]
  rw [Takes, List.append_assoc, first?_cat, hlengths, List.findSome?_cons, hdrop, hfail,
    Option.map_none, List.findSome?_cons, List.drop_left, show b.first? ([c] ++ v) = _ from hb,
    List.length_append]
  rfl

/-- A greedy repetition without a limit leaves no character that passes in front of the rest. -/
theorem stops_of_first?_greedy {text : Text} {n : Nat}
    (h : (chars test min none .greedy).first? text = some n) :
    ∀ c ∈ (text.drop n).head?, test.holds c = false := by
  obtain ⟨u, v, rfl, hu, hv⟩ := Text.exists_run test.holds text
  have hlength : runLength test none (u ++ v) = u.length := runLength_append hu hv nofun
  obtain ⟨hmin, hle⟩ := (mem_lengths_chars (by simp)).1 (List.mem_of_head? h)
  rw [first?_greedy (hmin.trans hle), hlength, Option.some.injEq] at h
  rwa [← h, List.drop_left]

end Greedy

section OfList

theorem lengths_ofList_cons (t : Tree) (ts : List Tree) (text : Text) :
    (ofList (t :: ts)).lengths text = (cat t (ofList ts)).lengths text := by
  cases ts with
  | nil => simp [ofList, lengths]
  | cons u us => rfl

theorem lengths_cat_assoc (a b c : Tree) (text : Text) :
    (cat (cat a b) c).lengths text = (cat a (cat b c)).lengths text := by
  simp [lengths, List.flatMap_assoc, List.flatMap_map, List.map_flatMap, List.drop_drop,
    Nat.add_assoc, Function.comp_def]

theorem lengths_ofList_append (ts us : List Tree) (text : Text) :
    (ofList (ts ++ us)).lengths text = (cat (ofList ts) (ofList us)).lengths text := by
  induction ts generalizing text with
  | nil => simp [ofList, lengths]
  | cons t ts ih =>
    have hcons (a : Tree) : (cat (ofList (t :: ts)) a).lengths text =
        (cat (cat t (ofList ts)) a).lengths text := by
      rw [lengths, lengths_ofList_cons]
      rfl
    rw [List.cons_append, lengths_ofList_cons, hcons, lengths_cat_assoc, lengths, lengths]
    congr 1
    funext n
    rw [ih]

theorem takes_ofList_cons {t : Tree} {ts : List Tree} {u v : Text} :
    (ofList (t :: ts)).Takes u v ↔ (cat t (ofList ts)).Takes u v := by
  rw [Takes, first?, lengths_ofList_cons]
  rfl

/-- Trees one after the other take what each of them takes in front of the rest. -/
theorem Takes.append {ts us : List Tree} {u w v : Text} (hts : (ofList ts).Takes u (w ++ v))
    (hus : (ofList us).Takes w v) : (ofList (ts ++ us)).Takes (u ++ w) v := by
  have hcat := hts.cat hus
  rwa [Takes, first?, ← lengths_ofList_append] at hcat

/-- Trees that end with a greedy repetition stop in front of a character that it does not pass. -/
theorem Takes.stops {ts : List Tree} {test : CharTest} {min : Nat} {u v : Text}
    (h : (ofList (ts ++ [chars test min none .greedy])).Takes u v) :
    ∀ c ∈ v.head?, test.holds c = false := by
  rw [Takes, first?, lengths_ofList_append] at h
  obtain ⟨n, -, hn⟩ := List.exists_of_findSome?_eq_some ((first?_cat _ _ _).symm.trans h)
  obtain ⟨k, hk, hlength⟩ := Option.map_eq_some_iff.1 hn
  have hstops := stops_of_first?_greedy hk
  rwa [List.drop_drop, hlength, List.drop_left] at hstops

theorem describes_ofList_cons {t : Tree} {ts : List Tree} {u : Text} :
    (ofList (t :: ts)).Describes u ↔ ∃ v w, u = v ++ w ∧ t.Describes v ∧ (ofList ts).Describes w := by
  cases ts with
  | nil => simp [ofList, Describes]
  | cons t' ts => rfl

theorem describes_ofList_append {ts us : List Tree} {u : Text} :
    (ofList (ts ++ us)).Describes u ↔
      ∃ v w, u = v ++ w ∧ (ofList ts).Describes v ∧ (ofList us).Describes w := by
  induction ts generalizing u with
  | nil => simp [ofList, Describes]
  | cons t ts ih =>
    rw [List.cons_append, describes_ofList_cons]
    constructor
    · rintro ⟨v, w, rfl, hv, hw⟩
      obtain ⟨w, x, rfl, hw, hx⟩ := ih.1 hw
      exact ⟨v ++ w, x, (List.append_assoc _ _ _).symm, describes_ofList_cons.2 ⟨v, w, rfl, hv, hw⟩, hx⟩
    · rintro ⟨v, x, rfl, hv, hx⟩
      obtain ⟨v, w, rfl, hv, hw⟩ := describes_ofList_cons.1 hv
      exact ⟨v, w ++ x, List.append_assoc _ _ _, hv, ih.2 ⟨w, x, rfl, hw, hx⟩⟩

theorem isPlain_ofList {ts : List Tree} (h : ∀ t ∈ ts, t.isPlain = true) :
    (ofList ts).isPlain = true := by
  induction ts with
  | nil => rfl
  | cons t ts ih =>
    have ht := h t List.mem_cons_self
    have hrest := ih fun u hu => h u (List.mem_cons_of_mem t hu)
    cases ts with
    | nil => exact ht
    | cons u us => exact Bool.and_eq_true_iff.2 ⟨ht, hrest⟩

end OfList

end Tree

variable {r : Regex}

theorem matchLength_eq_first? (h : r.tree.isPlain = true) (text : Text) :
    r.matchLength text = r.tree.first? text := by
  rw [matchLength, Tree.run_eq_findSome? h, Tree.first?]
  change Option.map _ ((r.tree.lengths text).findSome? fun n =>
    some (Cursor.forward (.ofText text) n, Captures.empty)) = _
  cases hlengths : r.tree.lengths text with
  | nil => rfl
  | cons n ns =>
    have hle : n ≤ text.length := ((Tree.mem_lengths_iff h).1 (hlengths ▸ List.mem_cons_self)).1
    simp [Cursor.forward, Cursor.ofText]
    omega

/-- What the tree takes is what the expression matches. -/
theorem matchLength_of_takes (h : r.tree.isPlain = true) {u v : Text} (hu : r.tree.Takes u v) :
    r.matchLength (u ++ v) = some u.length := by
  rw [matchLength_eq_first? h]
  exact hu

theorem takes_of_matchLength (h : r.tree.isPlain = true) {u v : Text}
    (hu : r.matchLength (u ++ v) = some u.length) : r.tree.Takes u v := by
  rwa [matchLength_eq_first? h] at hu

/-- A beginning that is matched is described. -/
theorem describes_of_matchLength (h : r.tree.isPlain = true) {text : Text} {n : Nat}
    (hn : r.matchLength text = some n) : r.tree.Describes (text.take n) := by
  rw [matchLength_eq_first? h] at hn
  exact ((Tree.mem_lengths_iff h).1 (List.mem_of_head? hn)).2

/-- A text no shorter beginning of which is described is matched to its end. -/
theorem matchLength_of_shortest (h : r.tree.isPlain = true) {text : Text}
    (htext : r.tree.Describes text)
    (hshortest : ∀ n < text.length, ¬ r.tree.Describes (text.take n)) :
    r.matchLength text = some text.length := by
  have hmem : text.length ∈ r.tree.lengths text :=
    (Tree.mem_lengths_iff h).2 ⟨Nat.le_refl _, by rwa [List.take_length]⟩
  obtain ⟨n, ns, hlengths⟩ := List.exists_cons_of_ne_nil (List.ne_nil_of_mem hmem)
  obtain ⟨hle, hdescribes⟩ := (Tree.mem_lengths_iff h).1 (hlengths ▸ List.mem_cons_self)
  rw [matchLength_eq_first? h, Tree.first?, hlengths, List.head?_cons, Option.some.injEq]
  exact hle.eq_of_not_lt fun hlt => hshortest n hlt hdescribes

/-- Whole texts are matched exactly if they are described. -/
theorem matchesAll_iff (h : r.tree.isPlain = true) (text : Text) :
    r.matchesAll text = true ↔ r.tree.Describes text := by
  have hdescribes : r.tree.Describes text ↔ text.length ∈ r.tree.lengths text := by
    rw [Tree.mem_lengths_iff h, List.take_length, and_iff_right (Nat.le_refl _)]
  rw [hdescribes, matchesAll, Tree.run_eq_findSome? h, List.findSome?_isSome_iff]
  constructor
  · rintro ⟨n, hn, hsome⟩
    have hle := ((Tree.mem_lengths_iff h).1 hn).1
    have hrest : ((Cursor.ofText text).forward n).rest.isEmpty = true := by
      by_contra hne
      rw [if_neg hne] at hsome
      cases hsome
    have hlength : text.length = n :=
      Nat.le_antisymm (List.drop_eq_nil_iff.1 (List.isEmpty_iff.1 hrest)) hle
    rwa [hlength]
  · intro hn
    refine ⟨_, hn, ?_⟩
    simp [Cursor.ofText]

end Stencil.Regex
