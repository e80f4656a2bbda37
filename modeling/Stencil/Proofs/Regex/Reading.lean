import Stencil.Proofs.Outcome
import Stencil.Regex

/-! # Reading expressions piece by piece

What the parser makes of an expression is put together from what it makes of the parts: a text is
read as some pieces wherever it stands, and texts one after the other as their pieces one after the
other.  From this the trees of literals, sets, counted repetitions and plain groups are read off
without running the parser.
-/
namespace Stencil.Regex

/-- The state behind the next `n` characters. -/
def State.past (s : State) (n : Nat) : State :=
  { s with rest := s.rest.drop n, position := s.position + n }

namespace State

/-- The state in front of an expression. -/
def initial (source : Text) : State := ⟨source, 0, .none, [none], [], none, []⟩

@[simp] theorem initial_rest (source : Text) : (initial source).rest = source := rfl

@[simp] theorem initial_flags (source : Text) : (initial source).flags = .none := rfl

@[simp] theorem past_rest (s : State) (n : Nat) : (s.past n).rest = s.rest.drop n := rfl

@[simp] theorem past_past (s : State) (m n : Nat) : (s.past m).past n = s.past (m + n) := by
  simp [past, List.drop_drop, Nat.add_assoc]

end State

namespace Parse

variable {α β : Type} {s : State}

theorem bind_of_ok {x : Parse α} {f : α → Parse β} {s' : State} {a : α}
    (h : x s = .ok (a, s')) : (x >>= f) s = f a s' := by
  change Except.bind (x s) _ = _
  rw [h]
  rfl

theorem bind_of_error {x : Parse α} {f : α → Parse β} {e : Fault} (h : x s = .error e) :
    (x >>= f) s = .error e := by
  change Except.bind (x s) _ = _
  rw [h]
  rfl

theorem of_bind_eq_ok {x : Parse α} {f : α → Parse β} {b : β} {s'' : State}
    (h : (x >>= f) s = .ok (b, s'')) : ∃ a s', x s = .ok (a, s') ∧ f a s' = .ok (b, s'') := by
  obtain ⟨⟨a, s'⟩, hx, hf⟩ := bind_eq_ok_iff.1 h
  exact ⟨a, s', hx, hf⟩

theorem state_bind (f : State → Parse β) : (StateT.get >>= f) s = f s s := rfl

theorem peek_bind (f : Option Token → Parse β) : (peek >>= f) s = f (token? s.rest) s := rfl

theorem position_bind (f : Nat → Parse β) : (position >>= f) s = f s.position s := rfl

theorem remaining_bind (f : Nat → Parse β) : (remaining >>= f) s = f s.rest.length s := rfl

/-- What may stand behind a token: no backslash alone. -/
theorem skip_of_ne {n : Nat} (h : s.rest.drop n ≠ ['\\']) : skip n s = .ok ((), s.past n) :=
  if_neg h

theorem token?_cons {c : Char} {rest : Text} (hc : c ≠ '\\') : token? (c :: rest) = some [c] := by
  cases rest <;> simp [token?, hc]

theorem exists_token? {rest : Text} (h : rest ≠ []) : ∃ tok, token? rest = some tok := by
  unfold token?
  split
  · exact absurd rfl h
  · exact ⟨_, rfl⟩
  · exact ⟨_, rfl⟩

theorem get_cons {c : Char} {rest : Text} (h : s.rest = c :: rest) (hc : c ≠ '\\')
    (hrest : rest ≠ ['\\']) : get s = .ok (some [c], s.past 1) := by
  have hskip : skip 1 s = .ok ((), s.past 1) := skip_of_ne (by rwa [h])
  rw [get, peek_bind, h, token?_cons hc]
  exact bind_of_ok hskip

theorem eat_cons {c : Char} {rest : Text} (h : s.rest = c :: rest) (hc : c ≠ '\\')
    (hrest : rest ≠ ['\\']) : eat c s = .ok (true, s.past 1) := by
  have hskip : skip 1 s = .ok ((), s.past 1) := skip_of_ne (by rwa [h])
  rw [eat, peek_bind, h, token?_cons hc, if_pos rfl]
  exact bind_of_ok hskip

theorem eat_of_ne {c : Char} (h : s.rest.head? ≠ some c) : eat c s = .ok (false, s) := by
  have htoken : token? s.rest ≠ some [c] := by
    cases hrest : s.rest with
    | nil => simp [token?]
    | cons d rest =>
      rw [hrest] at h
      cases rest with
      | nil => simpa [token?] using h
      | cons e rest =>
        by_cases hd : d = '\\'
        · simp [token?, hd]
        · simpa [token?, hd] using h
  rw [eat, peek_bind, if_neg htoken]
  rfl

/-- Neither a backslash alone nor a sign that changes the repetition in front of it. -/
def Apart (rest : Text) : Prop :=
  rest ≠ ['\\'] ∧ rest.head? ≠ some '?' ∧ rest.head? ≠ some '+'

theorem apart_cons {c : Char} {rest : Text} (hc : c ≠ '\\' ∧ c ≠ '?' ∧ c ≠ '+') :
    Apart (c :: rest) := by
  simp [Apart, hc]

section Sequence
variable {names : Text → Option Nat} {first : Bool} {pieces : List Piece} {fuel : Nat}

/-- The end of the expression or of a group. -/
def AtEnd (rest : Text) : Prop := rest = [] ∨ ∃ behind, rest = ')' :: behind

theorem AtEnd.apart {rest : Text} (h : AtEnd rest) : Apart rest := by
  rcases h with rfl | ⟨behind, rfl⟩
  · simp [Apart]
  · exact apart_cons (by decide)

theorem sequence_end (h : AtEnd s.rest) :
    sequence names .none first pieces (fuel + 1) s = .ok (Piece.opened pieces.reverse, s) := by
  rcases h with h | ⟨rest, h⟩
  · rw [sequence, peek_bind, h]
    rfl
  · rw [sequence, peek_bind, h, token?_cons (by decide)]
    rfl

/-- What a token adds to a sequence. -/
def after (names : Text → Option Nat) (first : Bool) (pieces : List Piece) (fuel start : Nat) :
    Item → Parse (List Piece)
  | .nothing => sequence names .none first pieces fuel
  | .piece p => sequence names .none first (p :: pieces) fuel
  | .repetition min max => do
    sequence names .none first (← repeatLast start min max pieces) fuel
  | .group => do
    let (flags, read) ← group .none start (first && pieces.isEmpty)
      (fun flags => alternatives names flags false [] fuel) (sequence names .none false [] fuel)
    sequence names flags first (read ++ pieces) fuel

theorem sequence_token {t : Token} {rest : Text} (h : s.rest = t ++ rest)
    (htoken : token? s.rest = some t) (hbar : t ≠ ['|']) (hclose : t ≠ [')'])
    (hrest : rest ≠ ['\\']) :
    sequence names .none first pieces (fuel + 1) s =
      (item names .none t >>= after names first pieces fuel s.position) (s.past t.length) := by
  have hskip : skip t.length s = .ok ((), s.past t.length) :=
    skip_of_ne (by rwa [h, List.drop_left])
  rw [sequence, peek_bind, htoken]
  dsimp only
  rw [if_neg (by simp [hbar, hclose]), position_bind, bind_of_ok hskip]
  congr 2

section Items
variable {t : Token} {rest : Text} {s' : State}

theorem sequence_piece {p : Piece} (h : s.rest = t ++ rest) (htoken : token? s.rest = some t)
    (hbar : t ≠ ['|']) (hclose : t ≠ [')']) (hrest : rest ≠ ['\\'])
    (hitem : item names .none t (s.past t.length) = .ok (.piece p, s')) :
    sequence names .none first pieces (fuel + 1) s =
      sequence names .none first (p :: pieces) fuel s' := by
  rw [sequence_token h htoken hbar hclose hrest, bind_of_ok hitem]
  rfl

end Items

/-- The characters that do not stand for themselves. -/
def operators : Text :=
  ['\\', '|', ')', '[', '?', '*', '+', '\x7b', '.', '^', '$', '(']

theorem operators_subset_special : operators ⊆ special := by decide

theorem characterItem_literal {c : Char} (hc : c ∉ operators) :
    characterItem names .none c s = .ok (.piece (.test (.literal c.toNat false .exact)), s) := by
  simp only [operators, List.mem_cons, List.not_mem_nil, or_false, not_or] at hc
  obtain ⟨-, -, -, hset, hopt, hstar, hplus, hbrace, hdot, hcaret, hdollar, hopen⟩ := hc
  rw [characterItem, if_neg (by simp [Flags.none]), if_neg (by simp [Flags.none]), if_neg hset,
    if_neg hopt, if_neg hstar, if_neg hplus, if_neg hbrace, if_neg hdot, if_neg hcaret, if_neg hdollar,
    if_neg hopen]
  rfl

theorem characterItem_open : characterItem names .none '(' s = .ok (.group, s) := rfl

end Sequence

/-- A text that a sequence reads as one piece, whatever stands behind it. -/
structure Atom (t : Text) (p : Piece) : Prop where
  apart : ∀ rest, Apart (t ++ rest)
  run : ∀ names first pieces fuel s rest, 2 * t.length ≤ fuel + 1 → s.rest = t ++ rest →
    rest ≠ ['\\'] →
      sequence names .none first pieces (fuel + 1) s =
        sequence names .none first (p :: pieces) fuel (s.past t.length)

/-- A text that a sequence reads as some pieces, if what stands behind it is apart. -/
structure Reads (t : Text) (ps : List Piece) : Prop where
  apart : ∀ rest, Apart rest → Apart (t ++ rest)
  run : ∃ n ≤ t.length, ∀ names first pieces fuel s rest, 2 * t.length ≤ fuel + n →
    s.rest = t ++ rest → Apart rest →
      sequence names .none first pieces (fuel + n) s =
        sequence names .none first (ps.reverse ++ pieces) fuel (s.past t.length)

theorem Atom.reads {t : Text} {p : Piece} (h : Atom t p) (hne : t ≠ []) : Reads t [p] where
  apart rest _ := h.apart rest
  run := ⟨1, List.length_pos_iff.2 hne, fun names first pieces fuel s rest hfuel hs hrest =>
    h.run names first pieces fuel s rest hfuel hs hrest.1⟩

theorem reads_nil : Reads [] [] where
  apart _ h := h
  run := ⟨0, Nat.le_refl 0, fun _ _ _ _ _ _ _ _ _ => rfl⟩

theorem Reads.append {t u : Text} {ps qs : List Piece} (ht : Reads t ps) (hu : Reads u qs) :
    Reads (t ++ u) (ps ++ qs) where
  apart rest h := by
    rw [List.append_assoc]
    exact ht.apart _ (hu.apart rest h)
  run := by
    obtain ⟨m, hm, ht'⟩ := ht.run
    obtain ⟨n, hn, hu'⟩ := hu.run
    refine ⟨n + m, by rw [List.length_append]; omega, ?_⟩
    intro names first pieces fuel s rest hfuel hs hrest
    rw [List.length_append] at hfuel
    rw [List.append_assoc] at hs
    have hbehind : (s.past t.length).rest = u ++ rest := by
      rw [State.past_rest, hs, List.drop_left]
    rw [← Nat.add_assoc, ht' names first pieces (fuel + n) s (u ++ rest) (by omega) hs
      (hu.apart rest hrest), hu' names first _ fuel _ rest (by omega) hbehind hrest,
      State.past_past, List.length_append, List.reverse_append, List.append_assoc]

theorem atom_literal {c : Char} (hc : c ∉ operators) :
    Atom [c] (.test (.literal c.toNat false .exact)) where
  apart rest := by
    refine apart_cons ⟨?_, ?_, ?_⟩ <;> rintro rfl <;> exact hc (by decide)
  run names first pieces fuel s rest _ hs hrest := by
    have hslash : c ≠ '\\' := by rintro rfl; exact hc (by decide)
    have hbar : [c] ≠ ['|'] := by rintro ⟨⟩; exact hc (by decide)
    have hclose : [c] ≠ [')'] := by rintro ⟨⟩; exact hc (by decide)
    refine sequence_piece hs ?_ hbar hclose hrest (characterItem_literal hc)
    rw [hs]
    exact token?_cons hslash

/-- An escape that stands for one piece. -/
theorem atom_escape {c : Char} {p : Piece}
    (h : ∀ names s, escape names .none c s = .ok (p, s)) : Atom ['\\', c] p where
  apart rest := by simp [Apart]
  run names first pieces fuel s rest _ hs hrest := by
    refine sequence_piece hs (by rw [hs]; rfl) (by simp) (by simp) hrest ?_
    change (escape names .none c >>= fun p => pure (Item.piece p)) _ = _
    rw [bind_of_ok (h names _)]
    rfl

theorem escape_special {c : Char} (hc : c ∈ special) (names : Text → Option Nat) (s : State) :
    escape names .none c s = .ok (.test (.literal c.toNat false .exact), s) := by
  have hspecial : special = ['(', ')', '[', ']', '\x7b', '\x7d', '?', '*', '+', '-', '|', '^', '$',
      '\\', '.', '&', '~', '#', ' ', '\t', '\n', '\r', '\x0b', '\x0c'] := rfl
  rw [hspecial] at hc
  revert c
  simp only [List.forall_mem_cons, List.not_mem_nil, false_imp_iff, implies_true, and_true]
  and_intros <;> rfl

theorem escape_category {c : Char} {item : SetItem} (hc : category? false c = some item)
    (names : Text → Option Nat) (s : State) :
    escape names .none c s = .ok (.test (.set [item] false .exact), s) := by
  simp only [category?] at hc
  split at hc <;> cases hc <;> rfl

/-- An escaped character stands for itself. -/
theorem atom_escaped (c : Char) :
    Atom (Regex.escape [c]) (.test (.literal c.toNat false .exact)) := by
  rw [Regex.escape, List.flatMap_singleton]
  split
  next hc => exact atom_escape (escape_special hc)
  next hc => exact atom_literal fun hmem => hc (operators_subset_special hmem)

/-- Whether a piece may be repeated. -/
def repeatable : Piece → Bool
  | .anchor _ => false
  | .repeated .. => false
  | _ => true

theorem repeatLast_of_apart {start min : Nat} {max : Option Nat} {p : Piece} {pieces : List Piece}
    (hp : repeatable p = true) (hrest : Apart s.rest) :
    repeatLast start min max (p :: pieces) s = .ok (p.quantified min max .greedy :: pieces, s) := by
  have hopt := eat_of_ne hrest.2.1
  have hplus := eat_of_ne hrest.2.2
  have hgreedy : (do
      if ← eat '?' then return p.quantified min max .lazy :: pieces
      else if ← eat '+' then return p.quantified min max .possessive :: pieces
      else return p.quantified min max .greedy :: pieces : Parse (List Piece)) s =
        .ok (p.quantified min max .greedy :: pieces, s) := by
    rw [bind_of_ok hopt]
    simp only [Bool.false_eq_true, if_false]
    rw [bind_of_ok hplus]
    rfl
  cases p with
  | anchor a => cases hp
  | repeated t w => cases hp
  | _ => exact hgreedy

/-- A sign of repetition, and what belongs to it. -/
structure Sign (q : Char) (more : Text) (min : Nat) (max : Option Nat) : Prop where
  token : q ≠ '\\' ∧ q ≠ '|' ∧ q ≠ ')'
  more_ne : ∀ rest, rest ≠ ['\\'] → more ++ rest ≠ ['\\']
  run : ∀ names s rest, s.rest = more ++ rest → rest ≠ ['\\'] →
    characterItem names .none q s = .ok (.repetition min max, s.past more.length)

theorem sign_star : Sign '*' [] 0 none := ⟨by decide, fun _ h => h, fun _ _ _ _ _ => rfl⟩

theorem sign_plus : Sign '+' [] 1 none := ⟨by decide, fun _ h => h, fun _ _ _ _ _ => rfl⟩

theorem sign_opt : Sign '?' [] 0 (some 1) := ⟨by decide, fun _ h => h, fun _ _ _ _ _ => rfl⟩

/-- A piece with a sign of repetition behind it. -/
theorem Atom.quantified {t more : Text} {p : Piece} {q : Char} {min : Nat} {max : Option Nat}
    (h : Atom t p) (hne : t ≠ []) (hp : repeatable p = true) (hsign : Sign q more min max) :
    Reads (t ++ q :: more) [p.quantified min max .greedy] where
  apart rest _ := by
    rw [List.append_assoc]
    exact h.apart _
  run := by
    have hpos := List.length_pos_iff.2 hne
    refine ⟨2, by rw [List.length_append, List.length_cons]; omega, ?_⟩
    intro names first pieces fuel s rest hfuel hs hrest
    rw [List.length_append, List.length_cons] at hfuel
    rw [List.append_assoc] at hs
    obtain ⟨hslash, hbar, hclose⟩ := hsign.token
    have hbehind : (s.past t.length).rest = [q] ++ (more ++ rest) := by
      rw [State.past_rest, hs, List.drop_left]
      rfl
    have hmore : (s.past (t.length + 1)).rest = more ++ rest := by
      rw [← State.past_past, State.past_rest, hbehind]
      rfl
    have hitem := hsign.run names (s.past (t.length + 1)) rest hmore hrest.1
    rw [State.past_past] at hitem
    have hpast : (s.past (t.length + 1 + more.length)).rest = rest := by
      rw [← State.past_past, State.past_rest, hmore, List.drop_left]
    rw [h.run names first pieces (fuel + 1) s _ (by omega) hs (by simp [hslash]),
      sequence_token hbehind (by rw [hbehind]; exact token?_cons hslash) (by simp [hbar])
        (by simp [hclose]) (hsign.more_ne rest hrest.1),
      item, State.past_past, List.length_singleton, bind_of_ok hitem]
    change (repeatLast _ _ _ _ >>= _) _ = _
    rw [bind_of_ok (repeatLast_of_apart hp (by rw [hpast]; exact hrest)), List.length_append,
      List.length_cons, Nat.add_comm more.length, ← Nat.add_assoc]
    rfl

theorem getWhile_append {p : Char → Bool} {ds rest : Text} {n : Nat} (hs : s.rest = ds ++ rest)
    (hds : ∀ d ∈ ds, p d = true ∧ d ≠ '\\')
    (hstop : ∃ c behind, rest = c :: behind ∧ p c = false ∧ c ≠ '\\') (hn : ds.length < n) :
    getWhile p n s = .ok (ds, s.past ds.length) := by
  obtain ⟨n, rfl⟩ : ∃ k, n = k + 1 := ⟨n - 1, by omega⟩
  obtain ⟨c, behind, rfl, hc, hslash⟩ := hstop
  induction ds generalizing n s with
  | nil =>
    rw [getWhile, peek_bind, hs, List.nil_append, token?_cons hslash]
    simp only [hc, Bool.false_eq_true, if_false]
    rfl
  | cons d ds ih =>
    obtain ⟨n, rfl⟩ : ∃ k, n = k + 1 := ⟨n - 1, by simp at hn; omega⟩
    obtain ⟨hd, hne⟩ := hds d List.mem_cons_self
    have hskip : skip 1 s = .ok ((), s.past 1) := by
      refine skip_of_ne ?_
      rw [hs]
      cases ds with
      | nil => simp [hslash]
      | cons e ds => simp
    have hrest := ih (fun e he => hds e (List.mem_cons_of_mem d he)) n (by simpa using hn)
      (s := s.past 1) (by rw [State.past_rest, hs]; rfl)
    rw [getWhile, peek_bind, hs, List.cons_append, token?_cons hne]
    simp only [hd, if_true]
    rw [bind_of_ok hskip, bind_of_ok hrest, State.past_past, List.length_cons, Nat.add_comm 1]
    rfl

section Braces
variable {ds : Text} {n : Nat} (hne : ds ≠ []) (hds : ∀ d ∈ ds, d.isDigit = true)
include hne

theorem braceCount_eq (hread : Numeral.read 10 ds = .ok n) (hn : n < 4294967295) (s : State) :
    braceCounts.count ds s = .ok (some n, s) := by
  have hempty : ds.isEmpty = false := by simpa using hne
  have hlarge : ¬ 4294967295 ≤ (n : Int) := by omega
  simp only [braceCounts.count, hempty, hread, hlarge, if_false]
  rfl

include hds

theorem token?_digits_ne (rest : Text) : token? (ds ++ rest) ≠ some ['\x7d'] := by
  obtain ⟨d, ds, rfl⟩ := List.exists_cons_of_ne_nil hne
  have hd := hds d List.mem_cons_self
  have hslash : d ≠ '\\' := by
    rintro rfl
    cases hd
  rw [List.cons_append, token?_cons hslash]
  intro heq
  obtain rfl : d = '\x7d' := by simpa using heq
  cases hd

theorem braceCounts_eq (hread : Numeral.read 10 ds = .ok n) (hn : n < 4294967295)
    {rest : Text} (hs : s.rest = ds ++ '\x7d' :: rest) (hrest : rest ≠ ['\\']) :
    braceCounts s = .ok (some (n, some n), s.past (ds.length + 1)) := by
  have hdigit : ∀ d ∈ ds, d.isDigit = true ∧ d ≠ '\\' := by
    intro d hd
    refine ⟨hds d hd, ?_⟩
    rintro rfl
    exact absurd (hds _ hd) (by decide)
  have htoken : token? s.rest ≠ some ['\x7d'] := hs ▸ token?_digits_ne hne hds _
  have hlow := getWhile_append (n := s.rest.length) hs hdigit
    ⟨_, _, rfl, by decide, by decide⟩ (by rw [hs, List.length_append, List.length_cons]; omega)
  have hbehind : (s.past ds.length).rest = '\x7d' :: rest := by
    rw [State.past_rest, hs, List.drop_left]
  have hcomma : eat ',' (s.past ds.length) = .ok (false, s.past ds.length) :=
    eat_of_ne (by rw [hbehind]; simp)
  have hclose := eat_cons hbehind (by decide) hrest
  have hcount := braceCount_eq hne hread hn (s.past (ds.length + 1))
  rw [braceCounts, state_bind, peek_bind]
  simp only [htoken, if_false]
  rw [remaining_bind, bind_of_ok hlow, bind_of_ok hcomma]
  rw [if_neg Bool.false_ne_true, pure_bind, bind_of_ok hclose, State.past_past]
  rw [if_neg (by decide), bind_of_ok hcount, bind_of_ok hcount]
  simp
  rfl

/-- A count in braces. -/
theorem sign_braces (hread : Numeral.read 10 ds = .ok n) (hn : n < 4294967295) :
    Sign '\x7b' (ds ++ ['\x7d']) n (some n) where
  token := by decide
  more_ne rest _ := by
    obtain ⟨d, ds, rfl⟩ := List.exists_cons_of_ne_nil hne
    simp
  run names s rest hs hrest := by
    have hcounts := braceCounts_eq hne hds hread hn (by simpa using hs) hrest
    change (braceCounts >>= _) s = _
    rw [bind_of_ok hcounts, List.length_append]
    rfl

end Braces

/-- The characters that have a meaning of their own in a set. -/
def setOperators : Text := ['\\', ']', '-', '^']

section Set
variable {names : Text → Option Nat} {start : Nat} {rest : Text}

theorem setMembers_close {sofar : List SetItem} {fuel : Nat} (hs : s.rest = ']' :: rest)
    (hrest : rest ≠ ['\\']) (hsofar : sofar ≠ []) :
    setMembers names .none start sofar (fuel + 1) s = .ok (sofar, s.past 1) := by
  rw [setMembers, bind_of_ok (get_cons hs (by decide) hrest)]
  simp [hsofar]
  rfl

theorem setMembers_cons {sofar : List SetItem} {fuel : Nat} {c d : Char}
    (hs : s.rest = c :: d :: rest) (hc : c ∉ setOperators) (hd : d ≠ '-')
    (hrest : d :: rest ≠ ['\\']) :
    setMembers names .none start sofar (fuel + 1) s =
      setMembers names .none start (sofar ++ [.code c.toNat]) fuel (s.past 1) := by
  simp only [setOperators, List.mem_cons, List.not_mem_nil, or_false, not_or] at hc
  have hmember : setMember names .none [c] (s.past 1) = .ok (.code c.toNat, s.past 1) := rfl
  have hminus : eat '-' (s.past 1) = .ok (false, s.past 1) := by
    refine eat_of_ne ?_
    rw [State.past_rest, hs]
    simpa using hd
  rw [setMembers, bind_of_ok (get_cons hs hc.1 hrest)]
  dsimp only
  rw [if_neg (by simp [hc.2.1]), bind_of_ok hmember, bind_of_ok hminus]
  rfl

theorem setMembers_append {cs : Text} (sofar : List SetItem) {fuel : Nat}
    (hs : s.rest = cs ++ ']' :: rest) (hrest : rest ≠ ['\\']) (hcs : ∀ c ∈ cs, c ∉ setOperators)
    (hsome : sofar ≠ [] ∨ cs ≠ []) (hfuel : cs.length < fuel) :
    setMembers names .none start sofar fuel s =
      .ok (sofar ++ cs.map fun c => .code c.toNat, s.past (cs.length + 1)) := by
  obtain ⟨fuel, rfl⟩ : ∃ n, fuel = n + 1 := ⟨fuel - 1, by omega⟩
  induction cs generalizing sofar fuel s with
  | nil =>
    rw [setMembers_close hs hrest (hsome.resolve_right fun h => h rfl)]
    simp
  | cons c cs ih =>
    obtain ⟨fuel, rfl⟩ : ∃ n, fuel = n + 1 := ⟨fuel - 1, by simp at hfuel; omega⟩
    have hc := hcs c List.mem_cons_self
    have hrestcs := fun d hd => hcs d (List.mem_cons_of_mem c hd)
    have hbehind : (s.past 1).rest = cs ++ ']' :: rest := by rw [State.past_rest, hs]; rfl
    have hstep : setMembers names .none start sofar (fuel + 1 + 1) s =
        setMembers names .none start (sofar ++ [.code c.toNat]) (fuel + 1) (s.past 1) := by
      cases cs with
      | nil => exact setMembers_cons hs hc (by decide) (by simp)
      | cons d cs =>
        have hd := hrestcs d List.mem_cons_self
        refine setMembers_cons hs hc ?_ ?_
        · rintro rfl
          exact hd (by decide)
        · simp
    rw [hstep, ih _ hbehind hrestcs (.inl (by simp)) fuel (by simpa using hfuel), State.past_past]
    simp [Nat.add_comm 1]

end Set

/-- The test for being one of some characters. -/
def oneOf (cs : Text) : CharTest :=
  match (cs.map fun c => SetItem.code c.toNat).eraseDups with
  | [.code c] => .literal c false .exact
  | items => .set items false .exact

theorem set_eq (names : Text → Option Nat) {cs rest : Text} (hs : s.rest = cs ++ ']' :: rest)
    (hrest : rest ≠ ['\\']) (hcs : ∀ c ∈ cs, c ∉ setOperators) (hne : cs ≠ []) :
    set names .none s = .ok (.test (oneOf cs), s.past (cs.length + 1)) := by
  have hcaret : eat '^' s = .ok (false, s) := by
    refine eat_of_ne ?_
    cases cs with
    | nil => exact absurd rfl hne
    | cons c cs =>
      rw [hs]
      simp only [List.cons_append, List.head?_cons, ne_eq, Option.some.injEq]
      rintro rfl
      exact hcs _ List.mem_cons_self (by decide)
  have hmembers : setMembers names .none (s.position - 1) [] (s.rest.length + 1) s = _ :=
    setMembers_append [] hs hrest hcs (.inr hne) (by rw [hs, List.length_append]; omega)
  rw [set, position_bind, bind_of_ok hcaret, remaining_bind, bind_of_ok hmembers, List.nil_append,
    oneOf]
  generalize (cs.map fun c => SetItem.code c.toNat).eraseDups = items
  rcases items with _ | ⟨item, _ | ⟨other, items⟩⟩
  · rfl
  · cases item <;> rfl
  · cases item <;> rfl

/-- A set of characters that have no meaning of their own there. -/
theorem atom_set {cs : Text} (hcs : ∀ c ∈ cs, c ∉ setOperators) (hne : cs ≠ []) :
    Atom ('[' :: (cs ++ [']'])) (.test (oneOf cs)) where
  apart rest := apart_cons (by decide)
  run names first pieces fuel s rest _ hs hrest := by
    have hs' : s.rest = ['['] ++ (cs ++ ']' :: rest) := by simpa using hs
    have hbehind : (s.past 1).rest = cs ++ ']' :: rest := by rw [State.past_rest, hs']; rfl
    have hset := set_eq names hbehind hrest hcs hne
    rw [State.past_past] at hset
    have hlength : ('[' :: (cs ++ [']'])).length = 1 + (cs.length + 1) := by
      simp [Nat.add_comm 1]
    rw [hlength]
    refine sequence_piece hs' (by rw [hs']; exact token?_cons (by decide)) (by simp) (by simp) ?_ ?_
    · cases cs with
      | nil => exact absurd rfl hne
      | cons c cs => simp
    · change (set names .none >>= fun p => pure (Item.piece p)) _ = _
      rw [List.length_singleton, bind_of_ok hset]
      rfl

/-- A set of a character and a minus sign, which stands for itself in front of the bracket. -/
theorem atom_set_minus {c : Char} (hc : c ∉ setOperators) :
    Atom ['[', c, '-', ']'] (.test (oneOf [c, '-'])) where
  apart rest := apart_cons (by decide)
  run names first pieces fuel s rest _ hs hrest := by
    have hs' : s.rest = ['['] ++ (c :: '-' :: ']' :: rest) := hs
    have hchar : (s.past 1).rest = c :: '-' :: ']' :: rest := by rw [State.past_rest, hs']; rfl
    have hminus : (s.past 2).rest = '-' :: ']' :: rest := by rw [State.past_rest, hs']; rfl
    have hbracket : (s.past 3).rest = ']' :: rest := by rw [State.past_rest, hs']; rfl
    simp only [setOperators, List.mem_cons, List.not_mem_nil, or_false, not_or] at hc
    have hmembers (start fuel : Nat) : setMembers names .none start [] (fuel + 1) (s.past 1) =
        .ok ([.code c.toNat, .code '-'.toNat], s.past 4) := by
      have hmember : setMember names .none [c] (s.past 2) = .ok (.code c.toNat, s.past 2) := rfl
      rw [setMembers, bind_of_ok (get_cons hchar hc.1 (by simp)), State.past_past]
      dsimp only
      rw [if_neg (by simp), bind_of_ok hmember,
        bind_of_ok (eat_cons hminus (by decide) (by simp)), State.past_past]
      simp only [Bool.not_true, Bool.false_eq_true, if_false]
      rw [bind_of_ok (get_cons hbracket (by decide) hrest), State.past_past]
      rfl
    have hcaret : eat '^' (s.past 1) = .ok (false, s.past 1) :=
      eat_of_ne (by rw [hchar]; simpa using hc.2.2.2)
    have hdistinct : [SetItem.code c.toNat, .code '-'.toNat].eraseDups =
        [.code c.toNat, .code '-'.toNat] := by
      have hcode : '-'.toNat ≠ c.toNat := fun h => hc.2.2.1 (Char.toNat_inj.1 h).symm
      have hne : 45 ≠ c.toNat := hcode
      simp [List.eraseDups_cons, hne]
    have hset : set names .none (s.past 1) = .ok (.test (oneOf [c, '-']), s.past 4) := by
      rw [set, position_bind, bind_of_ok hcaret, remaining_bind, bind_of_ok (hmembers _ _), oneOf,
        List.map_cons, List.map_cons, List.map_nil, hdistinct]
      rfl
    refine sequence_piece hs' (by rw [hs']; exact token?_cons (by decide)) (by simp) (by simp)
      (by simp) ?_
    change (set names .none >>= fun p => pure (Item.piece p)) _ = _
    rw [List.length_singleton, bind_of_ok hset]
    rfl

/-- A sequence up to the end of the expression or of a group is its only alternative. -/
theorem alternatives_of_sequence {names : Text → Option Nat} {top : Bool} {pieces : List Piece}
    {n : Nat} {s' : State} (h : sequence names .none top [] n s = .ok (pieces, s'))
    (hend : AtEnd s'.rest) : alternatives names .none top [] (n + 1) s = .ok (pieces, s') := by
  have hbar : eat '|' s' = .ok (false, s') := by
    refine eat_of_ne ?_
    rcases hend with hrest | ⟨behind, hrest⟩ <;> simp [hrest]
  have hsequence : sequence names .none (top && List.isEmpty (α := List Piece) []) [] n s =
      .ok (pieces, s') := by
    simpa using h
  rw [alternatives, bind_of_ok hsequence, state_bind, bind_of_ok hbar]
  rfl

theorem Reads.alternatives_eq {t rest : Text} {ps : List Piece} (h : Reads t ps)
    (names : Text → Option Nat) (top : Bool) {fuel : Nat} (hs : s.rest = t ++ rest)
    (hrest : AtEnd rest) (hfuel : 2 * t.length + 2 ≤ fuel) :
    alternatives names .none top [] fuel s = .ok (Piece.opened ps, s.past t.length) := by
  obtain ⟨n, hn, hrun⟩ := h.run
  obtain ⟨fuel, rfl⟩ : ∃ k, fuel = k + 1 + n + 1 := ⟨fuel - n - 2, by omega⟩
  have hbehind : (s.past t.length).rest = rest := by rw [State.past_rest, hs, List.drop_left]
  refine alternatives_of_sequence ?_ (by rwa [hbehind])
  rw [hrun names _ [] (fuel + 1) s rest (by omega) hs hrest.apart, sequence_end (by rwa [hbehind]),
    List.append_nil, List.reverse_reverse]

/-- The opening of a group that captures nothing, and what is read then. -/
theorem sequence_plain {names : Text → Option Nat} {first : Bool} {pieces : List Piece} {fuel : Nat}
    {rest : Text} (hs : s.rest = "(?:".toList ++ rest) (hrest : rest ≠ ['\\']) :
    sequence names .none first pieces (fuel + 1) s =
      (alternatives names .none false [] fuel >>= fun inner =>
        closeParenthesis s.position >>= fun _ =>
          sequence names .none first (.plainGroup inner :: pieces) fuel) (s.past 3) := by
  have hs : s.rest = ['('] ++ ('?' :: ':' :: rest) := hs
  have hoption : (s.past 1).rest = '?' :: ':' :: rest := by rw [State.past_rest, hs]; rfl
  have hcolon : (s.past 2).rest = ':' :: rest := by rw [State.past_rest, hs]; rfl
  have hopening : opening .none s.position (first && pieces.isEmpty) (s.past 1) =
      .ok (.scoped .none .none, s.past 3) := by
    rw [opening, bind_of_ok (eat_cons hoption (by decide) (by simp)), State.past_past,
      if_neg (by simp), bind_of_ok (get_cons hcolon (by decide) hrest), State.past_past]
    rfl
  rw [sequence_token hs (by rw [hs]; exact token?_cons (by decide)) (by simp) (by simp) (by simp),
    item, bind_of_ok characterItem_open]
  change (group _ _ _ _ _ >>= _) _ = _
  rw [List.length_singleton, group, bind_assoc, bind_of_ok hopening]
  simp only [bind_assoc, pure_bind]
  rfl

theorem closeParenthesis_eq (start : Nat) {rest : Text} (h : s.rest = ')' :: rest)
    (hrest : rest ≠ ['\\']) : closeParenthesis start s = .ok ((), s.past 1) := by
  rw [closeParenthesis, bind_of_ok (eat_cons h (by decide) hrest)]
  rfl

/-- A group that captures nothing. -/
theorem Reads.atom_group {t : Text} {ps : List Piece} (h : Reads t ps) :
    Atom ("(?:".toList ++ t ++ [')']) (.plainGroup (Piece.opened ps)) where
  apart rest := apart_cons (by decide)
  run names first pieces fuel s rest hfuel hs hrest := by
    have hlength : ("(?:".toList ++ t ++ [')']).length = 3 + t.length + 1 := by
      simp [Nat.add_comm 3]
    rw [hlength] at hfuel ⊢
    have hs : s.rest = "(?:".toList ++ (t ++ ')' :: rest) := by simpa using hs
    have hinner : (s.past 3).rest = t ++ ')' :: rest := by rw [State.past_rest, hs]; rfl
    have hbehind : (s.past (3 + t.length)).rest = ')' :: rest := by
      rw [← State.past_past, State.past_rest, hinner, List.drop_left]
    have halternatives : alternatives names .none false [] fuel (s.past 3) = _ :=
      h.alternatives_eq names false hinner (.inr ⟨rest, rfl⟩) (by omega)
    rw [State.past_past] at halternatives
    rw [sequence_plain hs (by cases t <;> simp), bind_of_ok halternatives,
      bind_of_ok (closeParenthesis_eq s.position hbehind hrest), State.past_past]

section Whole
variable {names : Text → Option Nat} {s' : State}

theorem checkConditions_eq_ok_iff {u : Unit} :
    checkConditions s = .ok (u, s') ↔
      (∀ i ∈ s.conditions.map Prod.fst, i < s.widths.length) ∧ s' = s := by
  rw [checkConditions, state_bind]
  generalize hfind : s.conditions.find? _ = found
  cases found with
  | none =>
    have hall : ∀ i ∈ s.conditions.map Prod.fst, i < s.widths.length := by
      intro i hi
      obtain ⟨c, hc, rfl⟩ := List.mem_map.1 hi
      simpa using List.find?_eq_none.1 hfind c hc
    constructor
    · rintro ⟨⟩
      exact ⟨hall, rfl⟩
    · rintro ⟨-, rfl⟩
      rfl
  | some c =>
    obtain ⟨hle, hmem⟩ := And.intro (List.find?_some hfind) (List.mem_of_find?_eq_some hfind)
    have hle : s.widths.length ≤ c.1 := by simpa using hle
    constructor
    · rintro ⟨⟩
    · rintro ⟨hall, -⟩
      exact absurd (hall c.1 (List.mem_map_of_mem hmem)) (by omega)

/-- A whole expression is one whose alternatives end with the text. -/
theorem expression_eq_ok_iff {source : Text} {tree : Tree} :
    expression names (.initial source) = .ok (tree, s) ↔
      source ≠ ['\\'] ∧ ∃ pieces, alternatives names .none true [] (2 * source.length + 4)
          (.initial source) = .ok (pieces, s) ∧
        ¬(s.flags.ascii && s.flags.unicode) ∧ s.rest = [] ∧
          (∀ i ∈ s.conditions.map Prod.fst, i < s.widths.length) ∧ Piece.trees pieces = tree := by
  by_cases hne : source = ['\\']
  · have hskip : skip 0 (.initial source) = .error (.malformed .danglingBackslash (some 0)) :=
      if_pos hne
    rw [expression, bind_of_error hskip]
    simp [hne]
  have hskip : skip 0 (.initial source) = .ok ((), .initial source) := skip_of_ne hne
  rw [expression, bind_of_ok hskip, state_bind, remaining_bind, State.initial_flags,
    State.initial_rest]
  cases halternatives :
    alternatives names .none true [] (2 * source.length + 4) (.initial source) with
  | error e =>
    rw [bind_of_error halternatives]
    simp
  | ok r =>
    obtain ⟨pieces, t⟩ := r
    rw [bind_of_ok halternatives, state_bind]
    dsimp only
    constructor
    · intro h
      split at h
      · cases h
      next hclash =>
      rw [peek_bind] at h
      split at h
      · cases h
      next htoken =>
      obtain ⟨u, t', hconditions, hpure⟩ := of_bind_eq_ok h
      obtain ⟨hall, rfl⟩ := checkConditions_eq_ok_iff.1 hconditions
      cases hpure
      refine ⟨hne, pieces, rfl, hclash, ?_, hall, rfl⟩
      by_contra hnil
      obtain ⟨tok, htok⟩ := exists_token? hnil
      exact htoken (by rw [htok]; rfl)
    · rintro ⟨-, pieces', heq, hclash, hrest, hall, rfl⟩
      cases heq
      have htoken : (token? s.rest).isSome ≠ true := by rw [hrest]; nofun
      have hconditions : checkConditions s = .ok ((), s) := checkConditions_eq_ok_iff.2 ⟨hall, rfl⟩
      rw [if_neg hclash, peek_bind, if_neg htoken, bind_of_ok hconditions]
      rfl

theorem Reads.ne {t : Text} {ps : List Piece} (h : Reads t ps) : t ≠ ['\\'] := by
  have hapart := h.apart [] (AtEnd.apart (.inl rfl))
  rw [List.append_nil] at hapart
  exact hapart.1

theorem Reads.expression_eq {t : Text} {ps : List Piece} (h : Reads t ps) :
    expression names (.initial t) =
      .ok (Piece.trees (Piece.opened ps), (State.initial t).past t.length) := by
  have halternatives : alternatives names .none true [] (2 * t.length + 4) (.initial t) = _ :=
    h.alternatives_eq names true (List.append_nil t).symm (.inl rfl) (by omega)
  refine expression_eq_ok_iff.2 ⟨h.ne, _, halternatives, nofun, List.drop_length, ?_, rfl⟩
  simp [State.past, State.initial]

end Whole

theorem trees_eq_ofList (ps : List Piece) : Piece.trees ps = .ofList (ps.map Piece.tree) := by
  induction ps with
  | nil => rfl
  | cons p ps ih =>
    cases ps with
    | nil => rfl
    | cons q ps => exact congrArg (Tree.cat p.tree) ih

/-- A tree without faults that is not changed any more. -/
def Settled (t : Tree) : Prop := t.settle = t ∧ t.fault? false = none

theorem settled_char {test : CharTest} (h : test.settle = test) : Settled (.char test) :=
  ⟨congrArg Tree.char h, rfl⟩

theorem settled_chars {test : CharTest} (h : test.settle = test) (min : Nat) (max : Option Nat)
    (mode : Mode) : Settled (.chars test min max mode) :=
  ⟨by rw [Tree.settle, h], rfl⟩

theorem fault?_ofList_eq_none_iff {ts : List Tree} :
    (Tree.ofList ts).fault? false = none ↔ ∀ t ∈ ts, t.fault? false = none := by
  induction ts with
  | nil => simp [Tree.ofList, Tree.fault?]
  | cons t ts ih =>
    cases ts with
    | nil => simp [Tree.ofList]
    | cons u us =>
      change (Tree.cat t (.ofList (u :: us))).fault? false = none ↔ _
      rw [Tree.fault?, Option.or_eq_none_iff, ih]
      simp

theorem settled_ofList {ts : List Tree} (h : ∀ t ∈ ts, Settled t) : Settled (.ofList ts) := by
  refine ⟨?_, fault?_ofList_eq_none_iff.2 fun t ht => (h t ht).2⟩
  induction ts with
  | nil => rfl
  | cons t ts ih =>
    have hsettle := (h t List.mem_cons_self).1
    have hsettles := ih fun u hu => h u (List.mem_cons_of_mem t hu)
    cases ts with
    | nil => exact hsettle
    | cons u us =>
      change (Tree.cat t (.ofList (u :: us))).settle = .cat t (.ofList (u :: us))
      rw [Tree.settle, hsettle, hsettles]

end Parse

theorem parse_eq_ok_iff {names : Text → Option Nat} {source : Text} {settled : Tree} :
    parse names .none source = .ok settled ↔
      ∃ tree s, Parse.expression names (.initial source) = .ok (tree, s) ∧
        tree.fault? s.flags.template = none ∧ tree.settle = settled := by
  rw [Regex.parse]
  refine bind_eq_ok_iff.trans ⟨?_, ?_⟩
  · rintro ⟨⟨tree, s⟩, hexpression, h⟩
    refine ⟨tree, s, hexpression, ?_⟩
    dsimp only at h
    split at h
    · cases h
    next hfault => exact ⟨hfault, Except.ok.inj h⟩
  · rintro ⟨tree, s, hexpression, hfault, rfl⟩
    refine ⟨(tree, s), hexpression, ?_⟩
    dsimp only
    rw [hfault]
    rfl

theorem compile_eq_ok_iff {source : Text} {r : Regex} :
    compile source = .ok r ↔
      parse Unicode.codeOfName? .none source = .ok r.tree ∧ r.source = source := by
  rw [compile, compileWith]
  constructor
  · intro h
    split at h
    next tree htree =>
      cases h
      exact ⟨htree, rfl⟩
    next => cases h
  · rintro ⟨htree, rfl⟩
    rw [htree]

/-- An expression that is read as some pieces is compiled to their trees. -/
theorem Parse.Reads.compile_eq {t : Text} {ps : List Piece} {ts : List Tree} (h : Reads t ps)
    (hts : (Piece.opened ps).map Piece.tree = ts) (hsettled : ∀ u ∈ ts, Settled u) :
    compile t = .ok ⟨t, .ofList ts⟩ := by
  obtain ⟨hsettle, hfault⟩ := settled_ofList hsettled
  rw [← hts, ← trees_eq_ofList] at hsettle hfault ⊢
  exact compile_eq_ok_iff.2 ⟨parse_eq_ok_iff.2 ⟨_, _, h.expression_eq, hfault, hsettle⟩, rfl⟩

theorem CharTest.settle_set (items : List SetItem) (negated : Bool) :
    (set items negated .exact).settle = set items negated .exact := by
  simp [settle]

theorem CharTest.settle_literal (c : Nat) (negated : Bool) :
    (literal c negated .exact).settle = literal c negated .exact := by
  simp [settle]

namespace Parse

theorem settle_oneOf (cs : Text) : (oneOf cs).settle = oneOf cs := by
  rw [oneOf]
  split
  · exact CharTest.settle_literal _ _
  · exact CharTest.settle_set _ _

theorem holds_oneOf_iff {cs : Text} {c : Char} : (oneOf cs).holds c = true ↔ c ∈ cs := by
  have hitems : (cs.map fun d => SetItem.code d.toNat).eraseDups.any (·.holds c.toNat) = true ↔
      c ∈ cs := by
    rw [List.any_eq_true]
    constructor
    · rintro ⟨item, hmem, hholds⟩
      obtain ⟨d, hd, rfl⟩ := List.mem_map.1 (List.mem_eraseDups.1 hmem)
      obtain rfl : c = d := Char.toNat_inj.1 (by simpa [SetItem.holds] using hholds)
      exact hd
    · intro hc
      exact ⟨.code c.toNat, List.mem_eraseDups.2 (List.mem_map.2 ⟨c, hc, rfl⟩), by
        simp [SetItem.holds]⟩
  rw [← hitems, oneOf]
  split
  next d hd => simp [hd, CharTest.holds, SetItem.holds]
  next => simp [CharTest.holds]

end Parse
end Stencil.Regex
