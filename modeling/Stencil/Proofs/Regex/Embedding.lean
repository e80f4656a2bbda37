import Stencil.Proofs.Regex.Carrying

/-! # The parser in front of a closing parenthesis

Each part of the parser is carried over to the longer text.  The longer run may have more steps, and
it is not at the start of the whole expression, where alone flags for all of it may stand.
-/
namespace Stencil.Regex

namespace Flags

theorem union_ne_none_of_letter {c : Char} {f : Flags} (on : Flags) (h : ofLetter? c = some f)
    (hc : c ≠ 'L') : on.union f ≠ .none := by
  unfold ofLetter? at h
  split at h <;> cases h <;> simp [union, Flags.none] at hc ⊢

theorem union_ne_none_right {on : Flags} (f : Flags) (h : on ≠ .none) : f.union on ≠ .none := by
  obtain ⟨i, m, x, v, a, u, p⟩ := on
  simp only [Flags.none, ne_eq, Flags.mk.injEq, union, Bool.or_eq_false_iff] at h ⊢
  tauto

end Flags

namespace Parse

variable {behind : Text} {inside : Bool} {s t : State}

/-! ## Tokens -/

theorem carries_getWhile {p : Char → Bool} (hp : p ')' = false) {n m : Nat}
    (hnm : n = m ∨ s.rest.length ≤ n ∧ n ≤ m) :
    Carries behind inside s t (getWhile p n) (getWhile p m) := by
  induction n generalizing m s t with
  | zero =>
    cases m with
    | zero => exact .pure []
    | succ m =>
      have hnil : s.rest = [] := List.length_eq_zero_iff.1 (by omega)
      change Carries behind inside s t (peek >>= fun _ => pure []) _
      refine .peek (fun _ => ?_) fun tok htok => ?_
      · simp only [hp, Bool.false_eq_true, if_false]
        exact .pure []
      · rw [hnil] at htok
        cases htok
  | succ n ih =>
    obtain ⟨m, rfl⟩ : ∃ k, m = k + 1 := ⟨m - 1, by omega⟩
    rw [getWhile, getWhile]
    refine .peek (fun _ => ?_) fun tok htok => ?_
    · simp only [hp, Bool.false_eq_true, if_false]
      exact .pure []
    · rcases tok with _ | ⟨c, _ | ⟨d, tok⟩⟩
      · exact .pure []
      · refine .ite (fun _ => ?_) fun _ => .pure []
        refine .bind (.skip_token htok) fun _ s' hs' _ t' => ?_
        have hlength := length_of_token? htok
        obtain ⟨-, rfl⟩ := of_skip_eq_ok hs'
        exact .bind (ih (by simp at hlength ⊢; omega)) fun ds _ _ _ _ => .pure (c :: ds)
      · exact .pure []

theorem steady_getWhile {p : Char → Bool} (hp : p ')' = false) (n : Nat) : Steady (getWhile p n) :=
  fun _ _ _ _ => carries_getWhile hp (.inl rfl)

theorem carries_untilToken (terminator : Char) (what sofar : Text) {n m : Nat} (hnm : n ≤ m) :
    Carries behind inside s t (untilToken terminator what sofar n)
      (untilToken terminator what sofar m) := by
  induction n generalizing m sofar s t with
  | zero => exact .of_error rfl
  | succ n ih =>
    obtain ⟨m, rfl⟩ : ∃ k, m = k + 1 := ⟨m - 1, by omega⟩
    rw [untilToken, untilToken]
    refine .get (fun _ => ?_) fun tok s' _ _ t' => ?_
    · dsimp only
      split <;> exact ⟨_, rfl⟩
    · refine .ite (fun _ => ?_) fun _ => ih _ (by omega)
      refine .ite (fun _ => .of_error rfl) fun _ => .pure sofar

theorem steady_getUntil (terminator : Char) (what : Text) : Steady (getUntil terminator what) :=
  fun _ _ _ _ => .remaining fun _ hm => carries_untilToken terminator what [] (by omega)

theorem carries_skipComment (start start' : Nat) {n m : Nat} (hnm : n ≤ m) :
    Carries behind inside s t (skipComment start n) (skipComment start' m) := by
  induction n generalizing m s t with
  | zero => exact .of_error rfl
  | succ n ih =>
    obtain ⟨m, rfl⟩ : ∃ k, m = k + 1 := ⟨m - 1, by omega⟩
    rw [skipComment, skipComment]
    exact .get (fun _ => ⟨_, rfl⟩) fun tok s' _ _ t' =>
      .ite (fun _ => .pure ()) fun _ => ih (by omega)

/-- A comment up to the end of its line must end inside the shorter text. -/
theorem carries_skipLine {n m : Nat} (hn : s.rest.length < n) (hnm : n ≤ m) :
    Carries behind true s t (skipLine n) (skipLine m) := by
  induction n generalizing m s t with
  | zero => exact absurd hn (Nat.not_lt_zero _)
  | succ n ih =>
    obtain ⟨m, rfl⟩ : ∃ k, m = k + 1 := ⟨m - 1, by omega⟩
    by_cases hnil : s.rest = []
    -- here the longer run would read on, but then nothing remains in the shorter one
    · intro hne a s' h
      have hget : Parse.get s = .ok (none, s) := by
        rw [Parse.get, peek_bind, hnil]
        rfl
      rw [skipLine, bind_of_ok hget] at h
      cases h
      exact ⟨.refl hne, fun _ _ hinside => absurd hnil (hinside rfl)⟩
    · rw [skipLine, skipLine]
      refine .get (fun h => absurd h hnil) fun tok s' htok hs' t' => ?_
      have hlength := length_of_token? htok
      subst hs'
      exact .ite (fun _ => .pure ()) fun _ => ih (by simp; omega) (by omega)

/-! ## Groups -/

theorem steady_groupCount : Steady groupCount :=
  .read (fun _ => rfl) fun _ _ _ h => by rw [h.widths]

theorem steady_closedWidth? (i : Nat) : Steady (closedWidth? i) :=
  .read (fun _ => rfl) fun _ _ _ h => by rw [h.widths]

theorem steady_openGroup (name : Option Text) : Steady (openGroup name) := by
  intro behind inside s t
  refine .bind steady_groupCount.carries fun i s₁ _ _ t₁ => ?_
  refine .bind (.modify rfl rfl fun h => ?_) fun _ s₂ _ _ t₂ => ?_
  · exact { h with widths := by rw [h.widths] }
  cases name with
  | none => exact .pure i
  | some n =>
    refine .state fun t₃ h => ?_
    rw [h.names]
    split
    · exact .of_error rfl
    · refine .bind (.modify rfl rfl fun h => ?_) fun _ _ _ _ _ => .pure i
      exact { h with names := by rw [h.names] }

theorem steady_closeGroup (i : Nat) (w : Width) : Steady (closeGroup i w) :=
  fun _ _ _ _ => .modify rfl rfl fun h => { h with widths := by rw [h.widths] }

theorem steady_checkLimit (i : Nat) : Steady (checkLimit i) := by
  intro behind inside s t
  refine .state fun t h => ?_
  rw [h.limit]
  cases s.limit with
  | none => exact .pure ()
  | some limit =>
    refine .bind (steady_closedWidth? i).carries fun w s' _ _ t' => ?_
    exact (Steady.check (.fail _ _) fun _ => .ite (.fail _ _) (.pure ())).carries

theorem steady_reference (flags : Flags) (i back : Nat) : Steady (reference flags i back) := by
  refine (steady_closedWidth? i).bind fun w => ?_
  cases w with
  | none => exact .fail _ _
  | some w => exact (steady_checkLimit i).bind fun _ => .pure _

/-! ## Escapes -/

theorem steady_hexCode (c : Char) (n : Nat) : Steady (hexCode c n) :=
  (steady_getWhile (by decide) n).bind fun _ => .check (.fail _ _) fun _ => .pure _

theorem steady_numberedCode? (names : Text → Option Nat) (c : Char) :
    Steady (numberedCode? names c) := by
  refine .ite ((steady_hexCode c 2).bind fun _ => .pure _) ?_
  refine .ite ((steady_hexCode c 4).bind fun _ => .pure _) ?_
  refine .ite ((steady_hexCode c 8).bind fun code => ?_) (.ite ?_ (.pure none))
  · exact .check (.raise _) fun _ => .check (.fail _ _) fun _ => .pure _
  · refine (Steady.eat (by decide)).bind fun _ => .check (.fail _ _) fun _ => ?_
    refine (steady_getUntil _ _).bind fun name => ?_
    split
    · exact .pure _
    · exact .fail _ _

theorem steady_setEscape (names : Text → Option Nat) (flags : Flags) (c : Char) :
    Steady (setEscape names flags c) := by
  unfold setEscape
  split
  · exact .pure _
  split
  · exact .pure _
  refine (steady_numberedCode? names c).bind fun code => ?_
  split
  · exact .pure _
  refine .ite ?_ (.check (.fail _ _) fun _ => .pure _)
  exact (steady_getWhile (by decide) 2).bind fun _ => .check (.fail _ _) fun _ => .pure _

theorem steady_digitEscape (flags : Flags) (c : Char) : Steady (digitEscape flags c) := by
  refine (steady_getWhile (by decide) 1).bind fun second => ?_
  refine .ite_bind (steady_getWhile (by decide) 1) (.pure []) fun third => ?_
  refine .ite (steady_groupCount.bind fun count => ?_) (.check (.fail _ _) fun _ => .pure _)
  exact .ite (steady_reference flags _ _) (.fail _ _)

theorem steady_escape (names : Text → Option Nat) (flags : Flags) (c : Char) :
    Steady (escape names flags c) := by
  refine .ite (.pure _) (.ite (.pure _) (.ite (.pure _) (.ite (.pure _) ?_)))
  split
  · exact .pure _
  split
  · exact .pure _
  refine (steady_numberedCode? names c).bind fun code => ?_
  split
  · exact .pure _
  refine .ite ((steady_getWhile (by decide) 2).bind fun _ => .pure _) ?_
  exact .ite (steady_digitEscape flags c) (.check (.fail _ _) fun _ => .pure _)

/-! ## Sets -/

theorem steady_setMember (names : Text → Option Nat) (flags : Flags) (tok : Token) :
    Steady (setMember names flags tok) := by
  unfold setMember
  split
  · exact .pure _
  · exact steady_setEscape names flags _
  · exact .pure _

theorem carries_setMembers (names : Text → Option Nat) (flags : Flags) (start start' : Nat)
    (sofar : List SetItem) {n m : Nat} (hnm : n ≤ m) :
    Carries behind inside s t (setMembers names flags start sofar n)
      (setMembers names flags start' sofar m) := by
  induction n generalizing m sofar s t with
  | zero => exact .of_error rfl
  | succ n ih =>
    obtain ⟨m, rfl⟩ : ∃ k, m = k + 1 := ⟨m - 1, by omega⟩
    have hnm : n ≤ m := by omega
    rw [setMembers, setMembers]
    refine .get (fun _ => ⟨_, rfl⟩) fun this s₁ _ _ t₁ => ?_
    refine .ite (fun _ => .pure sofar) fun _ => ?_
    refine .bind (steady_setMember names flags this).carries fun first s₂ _ _ t₂ => ?_
    refine .bind (.eat (by decide)) fun minus s₃ _ _ t₃ => .ite (fun _ => ih _ hnm) fun _ => ?_
    refine .get (fun _ => ⟨_, rfl⟩) fun that s₄ _ _ t₄ => .ite (fun _ => .pure _) fun _ => ?_
    refine .bind (steady_setMember names flags that).carries fun last s₅ _ _ t₅ => ?_
    rcases first with low | ⟨_, _, _⟩ <;> rcases last with high | ⟨_, _, _⟩
    · exact .check rfl fun _ => ih _ hnm
    all_goals exact .of_error rfl

theorem steady_set (names : Text → Option Nat) (flags : Flags) : Steady (set names flags) := by
  intro behind inside s t
  refine .position (.bind (.eat (by decide)) fun negated s₁ _ _ t₁ => .remaining fun m hm => ?_)
  refine .bind (carries_setMembers names flags _ _ [] (by omega)) fun items s₂ _ _ t₂ => ?_
  split <;> exact .pure _

/-! ## Flags -/

theorem carries_flagsOn (on : Flags) (c : Char) {n m : Nat} (hnm : n ≤ m) :
    Carries behind inside s t (flagsOn on n c) (flagsOn on m c) := by
  induction n generalizing m on c s t with
  | zero => exact .of_error rfl
  | succ n ih =>
    obtain ⟨m, rfl⟩ : ∃ k, m = k + 1 := ⟨m - 1, by omega⟩
    rw [flagsOn, flagsOn]
    refine .check rfl fun _ => .check rfl fun _ => ?_
    refine .get (fun _ => ⟨_, rfl⟩) fun tok s' _ _ t' => ?_
    dsimp only
    split
    · exact .pure _
    · exact .pure _
    · exact .pure _
    · split
      · exact .ite (fun _ => ih _ _ (by omega)) fun _ => .of_error rfl
      · exact .of_error rfl

theorem carries_flagsOff (off : Flags) (c : Char) {n m : Nat} (hnm : n ≤ m) :
    Carries behind inside s t (flagsOff off n c) (flagsOff off m c) := by
  induction n generalizing m off c s t with
  | zero => exact .of_error rfl
  | succ n ih =>
    obtain ⟨m, rfl⟩ : ∃ k, m = k + 1 := ⟨m - 1, by omega⟩
    rw [flagsOff, flagsOff]
    refine .check rfl fun _ => .get (fun _ => ⟨_, rfl⟩) fun tok s' _ _ t' => ?_
    dsimp only
    split
    · exact .pure _
    · exact .ite (fun _ => ih _ _ (by omega)) fun _ => .of_error rfl
    · exact .of_error rfl

theorem returns_flagsOn (on : Flags) {c : Char} (hc : (Flags.ofLetter? c).isSome) (n : Nat) :
    Returns (fun r _ => r.1 ≠ .none) (flagsOn on n c) := by
  induction n generalizing on c with
  | zero => exact .fail _ _
  | succ n ih =>
    obtain ⟨f, hf⟩ := Option.isSome_iff_exists.1 hc
    rw [flagsOn]
    refine .check fun hL => .check fun _ => .of_bind fun tok => ?_
    have hne : on.union ((Flags.ofLetter? c).getD .none) ≠ .none := by
      rw [hf]
      exact Flags.union_ne_none_of_letter on hf hL
    cases tok with
    | none => exact .fail _ _
    | some tok =>
      dsimp only
      split
      · exact .pure fun _ => hne
      · exact .pure fun _ => hne
      · exact .pure fun _ => hne
      · split
        · exact .ite (fun hd => ih _ hd) fun _ => .fail _ _
        · exact .fail _ _

/-- What is read behind the flags that are turned on. -/
def flagsEnd (on : Flags) (stop : Char) (fuel : Nat) : Parse (Option (Flags × Flags)) := do
  if stop = ')' then
    modify fun s => { s with flags := s.flags.union on }
    return none
  if on.template then fail .globalFlagOn 1
  if stop = '-' then
    match ← get with
    | none => fail .missingFlag 0
    | some t =>
      match t with
      | [d] =>
        if (Flags.ofLetter? d).isNone then
          fail (if isAlphabetic t then .unknownFlag else .missingFlag) t.length
        let off ← flagsOff .none fuel d
        if off.template then fail .globalFlagOff 1
        if on.inter off ≠ .none then fail .flagOnAndOff 1
        return some (on, off)
      | _ => fail .missingFlag t.length
  return some (on, .none)

/-- The flags that are turned on, and the character behind them. -/
def flagsBegin (c : Char) (fuel : Nat) : Parse (Flags × Char) :=
  if c = '-' then pure (.none, '-') else flagsOn .none fuel c

theorem groupFlags_eq (c : Char) :
    groupFlags c = remaining >>= fun n =>
      flagsBegin c (n + 1) >>= fun r => flagsEnd r.1 r.2 (n + 1) := by
  rw [groupFlags]
  congr 1
  funext n
  dsimp only
  by_cases hc : c = '-'
  · rw [flagsBegin, if_pos hc, if_pos hc]
    rfl
  · rw [flagsBegin, if_neg hc, if_neg hc]
    rfl

theorem carries_flagsEnd (on : Flags) {stop : Char} (hstop : stop ≠ ')') {n m : Nat} (hnm : n ≤ m) :
    Carries behind inside s t (flagsEnd on stop n) (flagsEnd on stop m) := by
  rw [flagsEnd, flagsEnd, if_neg hstop, if_neg hstop]
  refine .check rfl fun _ => .ite (fun _ => ?_) fun _ => .pure _
  refine .get (fun _ => ⟨_, rfl⟩) fun tok s' _ _ t' => ?_
  dsimp only
  split
  · refine .check rfl fun _ => .bind (carries_flagsOff _ _ hnm) fun off _ _ _ _ => ?_
    exact .check rfl fun _ => .check rfl fun _ => .pure _
  · exact .of_error rfl

theorem returns_flagsEnd (on : Flags) {stop : Char} (hstop : stop ≠ ')') (n : Nat) :
    Returns (fun r _ => r ≠ none) (flagsEnd on stop n) := by
  rw [flagsEnd, if_neg hstop]
  refine .check fun _ => .ite (fun _ => ?_) fun _ => .pure fun _ => nofun
  refine .of_bind fun tok => ?_
  cases tok with
  | none => exact .of_bind_fail
  | some tok =>
    dsimp only
    split
    · refine .check fun _ => .of_bind fun off => ?_
      exact .check fun _ => .check fun _ => .pure fun _ => nofun
    · exact .of_bind_fail

section GroupFlags
variable {α : Type} {f g : Option (Flags × Flags) → Parse α}

/-- Flags for the whole expression are misplaced in the longer run. -/
theorem carries_flagsEnd_bind {on : Flags} {stop : Char} (hon : stop = ')' → on ≠ .none) {n m : Nat}
    (hnm : n ≤ m) (hset : ∀ s', Carries behind true s' s' (f none) (f none))
    (hmisplaced : ∀ t', ∃ place, g none t' = .error (.malformed .misplacedFlags place))
    (hscoped : ∀ r s' t', Carries behind inside s' t' (f (some r)) (g (some r))) :
    Carries behind inside s t (flagsEnd on stop n >>= f) (flagsEnd on stop m >>= g) := by
  by_cases hstop : stop = ')'
  · rw [flagsEnd, flagsEnd, if_pos hstop, if_pos hstop]
    intro hne a s' h
    change f none { s with flags := s.flags.union on } = .ok (a, s') at h
    have hflags := Flags.union_ne_none_right s.flags (hon hstop)
    obtain ⟨⟨hrest, hlength, hkept⟩, -⟩ := hset { s with flags := s.flags.union on } hne a s' h
    refine ⟨⟨hrest, hlength, fun _ => hkept hflags⟩, fun _ _ _ => .inr ⟨hkept hflags, ?_⟩⟩
    exact hmisplaced _
  · refine .bind (carries_flagsEnd on hstop hnm) fun r s' hr _ t' => ?_
    cases r with
    | none => exact absurd rfl (returns_flagsEnd on hstop n _ _ _ hr)
    | some r => exact hscoped r s' t'

theorem carries_groupFlags_bind {c : Char} (hc : c = '-' ∨ (Flags.ofLetter? c).isSome)
    (hset : ∀ s', Carries behind true s' s' (f none) (f none))
    (hmisplaced : ∀ t', ∃ place, g none t' = .error (.malformed .misplacedFlags place))
    (hscoped : ∀ r s' t', Carries behind inside s' t' (f (some r)) (g (some r))) :
    Carries behind inside s t (groupFlags c >>= f) (groupFlags c >>= g) := by
  rw [groupFlags_eq, bind_assoc, bind_assoc]
  refine .remaining fun m hm => ?_
  rw [bind_assoc, bind_assoc]
  have hbegin : Carries behind inside s t (flagsBegin c (s.rest.length + 1))
      (flagsBegin c (m + 1)) := .ite (fun _ => .pure _) fun _ => carries_flagsOn _ _ (by omega)
  refine .bind hbegin fun r s' hr _ t' =>
    carries_flagsEnd_bind (fun hstop => ?_) (by omega) hset hmisplaced hscoped
  by_cases hminus : c = '-'
  · rw [flagsBegin, if_pos hminus] at hr
    cases hr
    cases hstop
  · rw [flagsBegin, if_neg hminus] at hr
    exact returns_flagsOn .none (hc.resolve_left hminus) _ _ _ _ hr

end GroupFlags

/-! ## Repetition -/

/-- A step that leaves the flags as they are. -/
def KeepsFlags {α : Type} (x : Parse α) : Prop := ∀ s a s', x s = .ok (a, s') → s'.flags = s.flags

namespace KeepsFlags
variable {α β : Type} {x : Parse α} {f : α → Parse β}

theorem pure (a : α) : KeepsFlags (pure a) := by
  rintro s _ _ ⟨⟩
  rfl

theorem bind (hx : KeepsFlags x) (hf : ∀ a, KeepsFlags (f a)) : KeepsFlags (x >>= f) := by
  intro s b s'' h
  obtain ⟨a, s', hs', hf'⟩ := of_bind_eq_ok h
  rw [hf a s' b s'' hf', hx s a s' hs']

theorem peek : KeepsFlags peek := by
  rintro s _ _ ⟨⟩
  rfl

theorem skip (n : Nat) : KeepsFlags (skip n) := by
  intro s _ s' h
  rw [(of_skip_eq_ok h).2]
  rfl

theorem eat (c : Char) : KeepsFlags (eat c) := by
  refine peek.bind fun tok => ?_
  split
  · exact (skip 1).bind fun _ => pure true
  · exact pure false

theorem getWhile (p : Char → Bool) (n : Nat) : KeepsFlags (getWhile p n) := by
  induction n with
  | zero => exact pure []
  | succ n ih =>
    refine peek.bind fun tok => ?_
    split
    · split
      · exact (skip 1).bind fun _ => ih.bind fun _ => pure _
      · exact pure []
    · exact pure []

end KeepsFlags

/-- What may be the counts of a repetition, and whether they end with a brace. -/
def braceText (fuel : Nat) : Parse (Text × Text × Bool) := do
  let low ← getWhile Char.isDigit fuel
  let high ← if ← eat ',' then getWhile Char.isDigit fuel else pure low
  return (low, high, ← eat '\x7d')

/-- The counts of a repetition that began at `start`. -/
def readCounts (start : Nat) (low high : Text) : Parse (Option (Nat × Option Nat)) := do
  let least ← braceCounts.count low
  let greatest ← braceCounts.count high
  match greatest with
  | some n =>
    if n < least.getD 0 then fail .leastAboveGreatest ((← position) - start)
  | none => pure ()
  return some (least.getD 0, greatest)

/-- The counts of a repetition, or the place behind the brace again if it does not end with one. -/
def countsFrom (start : State) (fuel : Nat) : Parse (Option (Nat × Option Nat)) :=
  braceText fuel >>= fun (low, high, closed) =>
    if !closed then StateT.set start >>= fun _ => pure none else readCounts start.position low high

theorem braceCounts_eq_countsFrom : braceCounts = StateT.get >>= fun start => peek >>= fun tok =>
    if tok = some ['\x7d'] then pure none else remaining >>= countsFrom start := by
  rw [braceCounts]
  congr 1
  funext start
  congr 1
  funext tok
  congr 2
  funext fuel
  rw [countsFrom, braceText]
  simp only [bind_assoc]
  congr 1
  funext low
  congr 1
  funext comma
  cases comma <;> simp only [Bool.false_eq_true, if_false, if_true, bind_assoc, pure_bind] <;> rfl

theorem keepsFlags_braceText (fuel : Nat) : KeepsFlags (braceText fuel) := by
  refine (KeepsFlags.getWhile _ _).bind fun low => (KeepsFlags.eat _).bind fun comma => ?_
  have hend (high : Text) : KeepsFlags (eat '\x7d' >>= fun closed => pure (low, high, closed)) :=
    (KeepsFlags.eat _).bind fun _ => .pure _
  dsimp only
  split
  · exact (KeepsFlags.getWhile _ _).bind hend
  · exact (KeepsFlags.pure low).bind hend

theorem carries_braceText {n m : Nat} (hn : s.rest.length ≤ n) (hnm : n ≤ m) :
    Carries behind inside s t (braceText n) (braceText m) := by
  refine .bind (carries_getWhile (by decide) (.inr ⟨hn, hnm⟩)) fun low s₁ _ h₁ t₁ => ?_
  refine .bind (.eat (by decide)) fun comma s₂ _ h₂ t₂ => ?_
  have hend (high : Text) (s₃ t₃ : State) : Carries behind inside s₃ t₃
      (eat '\x7d' >>= fun closed => pure (low, high, closed))
      (eat '\x7d' >>= fun closed => pure (low, high, closed)) :=
    .bind (.eat (by decide)) fun _ _ _ _ _ => .pure _
  have hlength : s₂.rest.length ≤ n := (h₁.trans h₂).length_le.trans hn
  refine .ite (fun _ => ?_) fun _ => .bind (.pure low) fun high s₃ _ _ t₃ => hend high s₃ t₃
  exact .bind (carries_getWhile (by decide) (.inr ⟨hlength, hnm⟩)) fun high s₃ _ _ t₃ =>
    hend high s₃ t₃

theorem steady_count (ds : Text) : Steady (braceCounts.count ds) := by
  refine .ite (.pure none) ?_
  split
  · exact .check (.raise _) fun _ => .pure _
  · exact .raise _
  · exact .pure none

theorem carries_readCounts (start start' : Nat) (low high : Text) :
    Carries behind inside s t (readCounts start low high) (readCounts start' low high) := by
  refine .bind (steady_count low).carries fun least s₁ _ _ t₁ => ?_
  refine .bind (steady_count high).carries fun greatest s₂ _ _ t₂ => ?_
  cases greatest with
  | none => exact .pure _
  | some n => exact .ite (fun _ => .of_error rfl) fun _ => .pure _

/-- The counts begin where the brace has been taken, and there the runs go on if there are none. -/
theorem carries_countsFrom {n m : Nat} (hn : s.rest.length ≤ n) (hnm : n ≤ m) :
    Carries behind inside s t (countsFrom s n) (countsFrom t m) := by
  intro hne r s'' h
  obtain ⟨⟨low, high, closed⟩, s', hs', hr⟩ := of_bind_eq_ok h
  cases closed with
  | true =>
    refine Carries.bind (carries_braceText hn hnm) (fun r₁ s₁ hs₁ _ t₁ => ?_) hne r s'' h
    cases hs'.symm.trans hs₁
    exact carries_readCounts _ _ low high
  | false =>
    -- both runs go back, so that only what the braces are read as has to agree
    cases hr
    refine ⟨.refl hne, fun hflags hext _ => .inl ⟨hflags, t, ?_, hext⟩⟩
    have hcarries : Carries behind false s t (braceText n) (braceText m) := carries_braceText hn hnm
    obtain ⟨-, hcontinued⟩ := hcarries hne _ s' hs'
    have hkept := keepsFlags_braceText n s _ s' hs'
    rcases hcontinued hflags hext nofun with ⟨-, t', ht', -⟩ | ⟨hset, -⟩
    · rw [countsFrom, bind_of_ok ht']
      rfl
    · exact absurd (hkept.trans hflags) hset

theorem steady_braceCounts : Steady braceCounts := by
  intro behind inside s t
  rw [braceCounts_eq_countsFrom]
  refine .state fun t _ => .peek (fun _ => ?_) fun tok _ => .ite (fun _ => .pure none) fun _ => ?_
  · rw [if_neg (by simp), if_neg (by simp)]
    exact .remaining fun m hm => carries_countsFrom (Nat.le_refl _) hm
  · exact .remaining fun m hm => carries_countsFrom (Nat.le_refl _) hm

theorem carries_repeatLast (start start' min : Nat) (max : Option Nat) (pieces : List Piece) :
    Carries behind inside s t (repeatLast start min max pieces)
      (repeatLast start' min max pieces) := by
  have hquantified (p : Piece) (before : List Piece) : Carries behind inside s t
      (eat '?' >>= fun isLazy =>
        if isLazy then pure (p.quantified min max .lazy :: before)
        else eat '+' >>= fun possessive =>
          if possessive then pure (p.quantified min max .possessive :: before)
          else pure (p.quantified min max .greedy :: before))
      _ :=
    .bind (.eat (by decide)) fun _ _ _ _ _ => .ite (fun _ => .pure _) fun _ =>
      .bind (.eat (by decide)) fun _ _ _ _ _ => .ite (fun _ => .pure _) fun _ => .pure _
  cases pieces with
  | nil => exact .of_error rfl
  | cons p before =>
    cases p with
    | anchor a => exact .of_error rfl
    | repeated tree w => exact .of_error rfl
    | _ => exact hquantified _ before

/-! ## Groups -/

theorem isSome_lookup_iff {l : List (Nat × Nat)} {i : Nat} :
    (l.lookup i).isSome = true ↔ i ∈ l.map Prod.fst := by
  induction l with
  | nil => simp
  | cons p l ih =>
    rw [List.lookup_cons, List.map_cons, List.mem_cons, ← ih]
    by_cases h : i = p.1
    · simp [h]
    · rw [beq_eq_false_iff_ne.2 h]
      exact (or_iff_right h).symm

theorem steady_conditionGroup (name : Text) : Steady (conditionGroup name) := by
  intro behind inside s t
  refine .ite (fun _ => .state fun t h => ?_) fun _ => ?_
  · rw [h.names]
    split
    · exact .pure _
    · exact .of_error rfl
  · split
    · exact .of_error rfl
    next i _ _ =>
      refine .check rfl fun _ => .position ?_
      refine .bind (.modify ?_ ?_ fun h => ?_) fun _ _ _ _ _ => .pure i
      · split <;> rfl
      · split <;> rfl
      · have hlookup : (s.conditions.lookup i).isSome = true ↔
            (t.conditions.lookup i).isSome = true := by
          rw [isSome_lookup_iff, isSome_lookup_iff, h.conditions]
        by_cases hi : (s.conditions.lookup i).isSome = true
        · rw [if_pos hi, if_pos (hlookup.1 hi)]
          exact h
        · rw [if_neg hi, if_neg fun ht => hi (hlookup.2 ht)]
          exact { h with conditions := by simp [h.conditions] }
    · exact .of_error rfl

theorem steady_groupName (terminator : Char) : Steady (groupName terminator) :=
  (steady_getUntil _ _).bind fun _ => .check (.fail _ _) fun _ => .pure _

theorem carries_opening (flags : Flags) (start start' : Nat) (atStart : Bool) :
    Carries behind inside s t (opening flags start atStart) (opening flags start' false) := by
  refine .bind (.eat (by decide)) fun option s₁ _ _ t₁ => .ite (fun _ => .pure _) fun _ => ?_
  refine .get (fun _ => ⟨_, rfl⟩) fun tok s₂ _ _ t₂ => ?_
  dsimp only
  split
  · exact .of_error rfl
  · refine .bind (.eat (by decide)) fun angle s₃ _ _ t₃ => .ite (fun _ => ?_) fun _ => ?_
    · exact .bind (steady_groupName _).carries fun _ _ _ _ _ => .pure _
    refine .bind (.eat (by decide)) fun equals s₄ _ _ t₄ => .ite (fun _ => ?_) fun _ => ?_
    · refine .bind (steady_groupName _).carries fun name s₅ _ _ t₅ => .state fun t₅ h => ?_
      rw [h.names]
      split
      · exact .of_error rfl
      · exact .bind (steady_reference flags _ _).carries fun _ _ _ _ _ => .pure _
    · exact .get (fun _ => ⟨_, rfl⟩) fun _ _ _ _ _ => .of_error rfl
  · exact .pure _
  · refine .remaining fun m hm => ?_
    exact .bind (carries_skipComment _ _ (by omega)) fun _ _ _ _ _ => .pure _
  · exact .pure _
  · exact .pure _
  · refine .get (fun _ => ⟨_, rfl⟩) fun tok s₃ _ _ t₃ => ?_
    split
    · exact .of_error rfl
    · exact .pure _
    · exact .pure _
    · exact .of_error rfl
  · refine .bind (steady_getUntil _ _).carries fun name s₃ _ _ t₃ => ?_
    refine .bind (steady_conditionGroup name).carries fun i s₄ _ _ t₄ => ?_
    exact .bind (steady_checkLimit i).carries fun _ _ _ _ _ => .pure _
  · exact .pure _
  · split
    · refine .ite (fun hc => ?_) fun _ => .of_error rfl
      exact carries_groupFlags_bind (by simpa using hc)
        (fun _ => .ite (fun _ => .of_error rfl) fun _ => .pure _) (fun _ => ⟨_, rfl⟩)
        fun _ _ _ => .pure _
    · exact .of_error rfl

theorem closeParenthesis_of_nil (start : Nat) (h : s.rest = []) :
    ∃ e, closeParenthesis start s = .error e := by
  have heat : eat ')' s = .ok (false, s) := eat_of_ne (by rw [h]; nofun)
  rw [closeParenthesis, bind_of_ok heat]
  exact ⟨_, rfl⟩

/-- What must be closed by a parenthesis leaves some text. -/
theorem Carries.bind_closed {α β : Type} {x y : Parse α} {f g : α → Parse β} {start start' : Nat}
    (hx : Carries behind true s t x y)
    (hf : ∀ a s' t', Carries behind inside s' t' (f a) (g a)) :
    Carries behind inside s t (x >>= fun a => Parse.closeParenthesis start >>= fun _ => f a)
      (y >>= fun a => Parse.closeParenthesis start' >>= fun _ => g a) := by
  refine hx.bind_inside (fun _ => .inr fun a s' _ hnil => ?_) fun a s' _ _ t' => ?_
  · obtain ⟨e, he⟩ := closeParenthesis_of_nil start hnil
    exact ⟨e, bind_of_error he⟩
  · exact .bind (.closeParenthesis start start') fun _ s'' _ _ t'' => hf a s'' t''

/-- The branches of a condition. -/
def branches (branch : Parse (List Piece)) : Parse (List Piece × List Piece) := do
  let yes ← branch
  let no ←
    if ← eat '|' then
      let no ← branch
      if (← peek) = some ['|'] then fail .tooManyBranches 0
      pure no
    else pure []
  return (yes, no)

theorem branches_bind {α : Type} (branch : Parse (List Piece))
    (f : List Piece → List Piece → Parse α) :
    (branches branch >>= fun r => f r.1 r.2) = branch >>= fun yes => eat '|' >>= fun bar =>
      if bar then branch >>= fun no => peek >>= fun tok =>
        if tok = some ['|'] then fail .tooManyBranches 0 >>= fun _ : PUnit => pure no >>= f yes
        else pure no >>= f yes
      else pure [] >>= f yes := by
  simp only [branches, bind_assoc]
  congr 1
  funext yes
  congr 1
  funext bar
  cases bar
  · simp
  · simp only [if_true, bind_assoc]
    congr 1
    funext no
    congr 1
    funext tok
    split <;> simp

theorem carries_branches {branch branch' : Parse (List Piece)}
    (hbranch : ∀ s t, Carries behind true s t branch branch') (s t : State) :
    Carries behind true s t (branches branch) (branches branch') := by
  refine .bind (hbranch s t) fun yes s₁ _ _ t₁ => .bind (.eat (by decide)) fun bar s₂ _ _ t₂ => ?_
  refine .ite (fun _ => .bind (hbranch s₂ t₂) fun no s₃ _ _ t₃ => ?_) fun _ => .pure _
  refine .peek (fun _ => ?_) fun tok _ => .check rfl fun _ => .pure _
  rw [if_neg (by simp), if_neg (by simp)]
  exact .pure _

/-- What is inside a lookbehind, which limits the groups that may be referred to. -/
def limited (inner : Parse (List Piece)) : Parse (List Piece) := do
  let outer := (← StateT.get).limit
  modify fun s => { s with limit := some (outer.getD s.widths.length) }
  let pieces ← inner
  modify fun s => { s with limit := outer }
  return pieces

theorem limited_bind {α : Type} (inner : Parse (List Piece)) (f : List Piece → Parse α) :
    limited inner >>= f = StateT.get >>= fun s =>
      modify (fun s' => { s' with limit := some (s.limit.getD s'.widths.length) }) >>= fun _ =>
        inner >>= fun pieces => modify (fun s' => { s' with limit := s.limit }) >>= fun _ =>
          f pieces := by
  simp only [limited, bind_assoc, pure_bind]

theorem carries_limited {inner inner' : Parse (List Piece)}
    (hinner : ∀ s t, Carries behind true s t inner inner') (s t : State) :
    Carries behind true s t (limited inner) (limited inner') := by
  refine .state fun t h => ?_
  rw [h.limit]
  refine .bind (.modify rfl rfl fun h => ?_) fun _ s₁ _ _ t₁ => ?_
  · exact { h with limit := by rw [h.widths] }
  refine .bind (hinner s₁ t₁) fun pieces s₂ _ _ t₂ => ?_
  refine .bind (.modify rfl rfl fun h => ?_) fun _ _ _ _ _ => .pure pieces
  exact { h with limit := rfl }

section Group
variable {inner inner' : Flags → Parse (List Piece)} {branch branch' : Parse (List Piece)}

theorem carries_group (flags : Flags) (start start' : Nat) (atStart : Bool)
    (hinner : ∀ flags s t, Carries behind true s t (inner flags) (inner' flags))
    (hbranch : ∀ s t, Carries behind true s t branch branch') :
    Carries behind inside s t (group flags start atStart inner branch)
      (group flags start' false inner' branch') := by
  refine .bind (carries_opening flags start start' atStart) fun o s₁ _ _ t₁ => ?_
  cases o with
  | comment => exact .pure _
  | flags =>
    refine .state fun t₁ h => ?_
    rw [h.flags]
    exact .pure _
  | sameAs p => exact .pure _
  | ahead negated => exact .bind_closed (hinner flags s₁ t₁) fun _ _ _ => .pure _
  | behind negated =>
    exact .of_eq (limited_bind _ _) (limited_bind _ _)
      (.bind_closed (carries_limited (hinner flags) s₁ t₁) fun _ _ _ => .pure _)
  | condition i =>
    exact .of_eq (branches_bind _ _) (branches_bind _ _)
      (.bind_closed (carries_branches hbranch s₁ t₁) fun _ _ _ => .pure _)
  | atomic => exact .bind_closed (hinner flags s₁ t₁) fun _ _ _ => .pure _
  | captured name =>
    refine .bind (steady_openGroup name).carries fun i s₂ _ _ t₂ => ?_
    refine .bind_closed (hinner flags s₂ t₂) fun pieces s₃ t₃ => ?_
    exact .bind (steady_closeGroup i _).carries fun _ _ _ _ _ => .pure _
  | «scoped» on off => exact .bind_closed (hinner _ s₁ t₁) fun _ _ _ => .pure _

/-- The flags in force behind a group are those in front of it, or those of the whole expression. -/
theorem returns_group (flags : Flags) (start : Nat) (atStart : Bool) :
    Returns (fun r s' => r.1 = flags ∨ r.1 = s'.flags)
      (group flags start atStart inner branch) := by
  refine .of_bind fun o => ?_
  cases o with
  | flags =>
    rintro s _ _ ⟨⟩
    exact .inr rfl
  | comment => exact .pure fun _ => .inl rfl
  | sameAs p => exact .pure fun _ => .inl rfl
  | ahead negated => exact .of_bind fun _ => .of_bind fun _ => .pure fun _ => .inl rfl
  | behind negated =>
    exact .of_bind fun _ => .of_bind fun _ => .of_bind fun _ => .of_bind fun _ => .of_bind fun _ =>
      .pure fun _ => .inl rfl
  | condition i =>
    have hclose (no : List Piece) (f : List Piece → Flags × List Piece)
        (hf : ∀ no, (f no).1 = flags) : Returns (fun r s' => r.1 = flags ∨ r.1 = s'.flags)
          (pure no >>= fun no => closeParenthesis start >>= fun _ => pure (f no)) :=
      .of_bind fun no => .of_bind fun _ => .pure fun _ => .inl (hf no)
    refine .of_bind fun yes => .of_bind fun bar =>
      .ite (fun _ => ?_) fun _ => hclose _ _ fun _ => rfl
    exact .of_bind fun no => .of_bind fun tok => .check fun _ => hclose _ _ fun _ => rfl
  | atomic => exact .of_bind fun _ => .of_bind fun _ => .pure fun _ => .inl rfl
  | captured name =>
    exact .of_bind fun _ => .of_bind fun _ => .of_bind fun _ => .of_bind fun _ =>
      .pure fun _ => .inl rfl
  | «scoped» on off => exact .of_bind fun _ => .of_bind fun _ => .pure fun _ => .inl rfl

end Group

/-! ## Sequences and alternatives -/

section Sequence
variable {names : Text → Option Nat}

theorem carries_characterItem (flags : Flags) (c : Char)
    (hverbose : flags.verbose = true → inside = true) :
    Carries behind inside s t (characterItem names flags c) (characterItem names flags c) := by
  refine .ite (fun _ => .pure _) fun _ => .ite (fun h => ?_) fun _ => ?_
  · obtain rfl := hverbose (by simp_all)
    refine .remaining fun m hm => ?_
    exact .bind (carries_skipLine (by omega) (by omega)) fun _ _ _ _ _ => .pure _
  refine .ite (fun _ => .bind (steady_set names flags).carries fun _ _ _ _ _ => .pure _) fun _ => ?_
  refine .ite (fun _ => .pure _) fun _ => .ite (fun _ => .pure _) fun _ => ?_
  refine .ite (fun _ => .pure _) fun _ => ?_
  refine .ite (fun _ => .bind steady_braceCounts.carries fun counts _ _ _ _ => ?_) fun _ => ?_
  · split <;> exact .pure _
  refine .ite (fun _ => .pure _) fun _ => .ite (fun _ => .pure _) fun _ => ?_
  refine .ite (fun _ => .pure _) fun _ => ?_
  exact .ite (fun _ => .pure _) fun _ => .pure _

theorem carries_item (flags : Flags) (tok : Token)
    (hverbose : flags.verbose = true → inside = true) :
    Carries behind inside s t (item names flags tok) (item names flags tok) := by
  unfold item
  split
  · exact carries_characterItem flags _ hverbose
  · exact .bind (steady_escape names flags _).carries fun _ _ _ _ _ => .pure _
  · exact .of_error rfl

/-- Sequences are carried over, with `n` steps for the shorter run. -/
def CarriesSequences (names : Text → Option Nat) (n : Nat) : Prop :=
  ∀ behind inside s t flags first pieces m, n ≤ m → (flags.verbose = true → inside = true) →
    Carries behind inside s t (sequence names flags first pieces n)
      (sequence names flags false pieces m)

/-- Alternatives are carried over, with `n` steps for the shorter run. -/
def CarriesAlternatives (names : Text → Option Nat) (n : Nat) : Prop :=
  ∀ behind inside s t flags top done m, n ≤ m → (flags.verbose = true → inside = true) →
    (top = true → s.flags = .none → flags = .none) →
      Carries behind inside s t (alternatives names flags top done n)
        (alternatives names flags false done m)

theorem carriesSequences_succ {n : Nat} (hs : CarriesSequences names n)
    (ha : CarriesAlternatives names n) : CarriesSequences names (n + 1) := by
  intro behind inside s t flags first pieces m hnm hverbose
  obtain ⟨m, rfl⟩ : ∃ k, m = k + 1 := ⟨m - 1, by omega⟩
  have hnm : n ≤ m := by omega
  rw [sequence, sequence]
  refine .peek (fun _ => .pure _) fun this htok => .ite (fun _ => .pure _) fun _ => .position ?_
  refine .bind (.skip_token htok) fun _ s₁ _ _ t₁ => ?_
  refine .bind (carries_item flags this hverbose) fun i s₂ _ _ t₂ => ?_
  cases i with
  | nothing => exact hs _ _ _ _ _ _ _ _ hnm hverbose
  | piece p => exact hs _ _ _ _ _ _ _ _ hnm hverbose
  | repetition min max =>
    refine .bind (carries_repeatLast _ _ min max pieces) fun pieces s₃ _ _ t₃ => ?_
    exact hs _ _ _ _ _ _ _ _ hnm hverbose
  | group =>
    have hinner (flags : Flags) (s t : State) :=
      ha behind true s t flags false [] m hnm (fun _ => rfl) (by simp)
    have hbranch (s t : State) := hs behind true s t flags false [] m hnm fun _ => rfl
    refine .bind (carries_group flags s.position t.position _ hinner hbranch) fun r s₃ hr _ t₃ => ?_
    obtain ⟨flags', read⟩ := r
    rcases returns_group flags s.position _ _ _ _ hr with rfl | rfl
    · exact hs _ _ _ _ _ _ _ _ hnm hverbose
    · by_cases hset : s₃.flags = .none
      · refine hs _ _ _ _ _ _ _ _ hnm fun h => ?_
        rw [hset] at h
        cases h
      · exact .of_flags_ne hset (hs _ _ _ t₃ _ _ _ _ hnm fun _ => rfl)

/-- What follows a sequence: one more alternative, or what all of them are. -/
def afterSequence (names : Text → Option Nat) (flags : Flags) (top : Bool) (item : List Piece)
    (done : List (List Piece)) (fuel : Nat) : Parse (List Piece) := do
  if ← eat '|' then alternatives names flags top (item :: done) fuel
  else
    match item :: done with
    | [item] => return item
    | _ => return Piece.alternatives flags.folding (item.length + 1) (item :: done).reverse

theorem alternatives_succ (flags : Flags) (top : Bool) (done : List (List Piece)) (fuel : Nat) :
    alternatives names flags top done (fuel + 1) =
      sequence names flags (top && done.isEmpty) [] fuel >>= fun item => StateT.get >>= fun s =>
        afterSequence names (if top then s.flags else flags) top item done fuel := rfl

theorem carries_afterSequence {n m : Nat} (ha : CarriesAlternatives names n) (hnm : n ≤ m)
    (flags : Flags) (top : Bool) (item : List Piece) (done : List (List Piece))
    (hverbose : flags.verbose = true → inside = true)
    (htop : top = true → s.flags = .none → flags = .none) :
    Carries behind inside s t (afterSequence names flags top item done n)
      (afterSequence names flags false item done m) := by
  refine .bind (.eat (by decide)) fun bar s₁ _ hleads t₁ => .ite (fun _ => ?_) fun _ => ?_
  · refine ha _ _ _ _ _ _ _ _ hnm hverbose fun h hnone => htop h ?_
    exact not_not.1 fun hset => hleads.flags_ne hset hnone
  · split <;> exact .pure _

theorem carriesAlternatives_succ {n : Nat} (hs : CarriesSequences names n)
    (ha : CarriesAlternatives names n) : CarriesAlternatives names (n + 1) := by
  intro behind inside s t flags top done m hnm hverbose htop
  obtain ⟨m, rfl⟩ : ∃ k, m = k + 1 := ⟨m - 1, by omega⟩
  have hnm : n ≤ m := by omega
  rw [alternatives_succ, alternatives_succ]
  refine .bind (hs _ _ _ _ _ _ _ _ hnm hverbose) fun item s₁ _ hleads t₁ => .state fun t₁ _ => ?_
  -- as long as no flags are set, those behind the sequence are those in front of it
  by_cases hset : s₁.flags = .none
  · have hnone : s.flags = .none := not_not.1 fun h => hleads.flags_ne h hset
    have hflags : (if top then s₁.flags else flags) = flags := by
      cases top with
      | false => rfl
      | true => rw [if_pos rfl, hset, htop rfl hnone]
    rw [hflags]
    exact carries_afterSequence ha hnm flags top item done hverbose fun h _ => htop h hnone
  · exact .of_flags_ne hset (carries_afterSequence ha hnm _ top item done (fun _ => rfl)
      fun _ hnone => absurd hnone hset)

/-- The induction on the steps of the shorter run. -/
theorem carries_steps (names : Text → Option Nat) (n : Nat) :
    CarriesSequences names n ∧ CarriesAlternatives names n := by
  induction n with
  | zero =>
    constructor
    · intro _ _ _ _ _ _ _ _ _ _
      exact .of_error rfl
    · intro _ _ _ _ _ _ _ _ _ _ _
      exact .of_error rfl
  | succ n ih => exact ⟨carriesSequences_succ ih.1 ih.2, carriesAlternatives_succ ih.1 ih.2⟩

end Sequence

end Parse
end Stencil.Regex
