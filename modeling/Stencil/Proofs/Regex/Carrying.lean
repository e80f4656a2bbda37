import Stencil.Proofs.Regex.Reading

/-! # Reading in front of a closing parenthesis

An expression is read in the same way when a closing parenthesis and more text stand behind it,
until it sets flags for the whole expression: these are then misplaced.  The relation between the
two runs is preserved by every step of the parser.
-/
namespace Stencil.Regex

namespace State

/-- The state of a run with a closing parenthesis and more text behind what remains.  The places may
be different ones. -/
structure Extends (behind : Text) (s t : State) : Prop where
  rest : t.rest = s.rest ++ ')' :: behind
  flags : t.flags = s.flags
  widths : t.widths = s.widths
  names : t.names = s.names
  limit : t.limit = s.limit
  conditions : t.conditions.map Prod.fst = s.conditions.map Prod.fst

/-- What holds between the states in front of and behind a step.  Flags for the whole expression are
never taken back. -/
structure Leads (s s' : State) : Prop where
  rest_ne : s'.rest ≠ ['\\']
  length_le : s'.rest.length ≤ s.rest.length
  flags_ne : s.flags ≠ .none → s'.flags ≠ .none

theorem Leads.refl {s : State} (h : s.rest ≠ ['\\']) : s.Leads s := ⟨h, Nat.le_refl _, id⟩

theorem Leads.trans {s s' s'' : State} (h : s.Leads s') (h' : s'.Leads s'') : s.Leads s'' :=
  ⟨h'.rest_ne, h'.length_le.trans h.length_le, h'.flags_ne ∘ h.flags_ne⟩

theorem Leads.rest_ne_nil {s s' : State} (h : s.Leads s') (hne : s'.rest ≠ []) : s.rest ≠ [] := by
  have hpos := List.length_pos_iff.2 hne
  exact List.length_pos_iff.1 (hpos.trans_le h.length_le)

end State

namespace Parse

variable {α β : Type} {behind : Text} {inside : Bool} {s t : State}

theorem length_of_token? {rest : Text} {tok : Token} (h : token? rest = some tok) :
    0 < tok.length ∧ tok.length ≤ rest.length := by
  unfold token? at h
  split at h <;> cases h <;> simp

theorem token?_append {rest : Text} (c : Char) (behind : Text) (hne : rest ≠ ['\\'])
    (hnil : rest ≠ []) : token? (rest ++ c :: behind) = token? rest := by
  match rest with
  | [] => exact absurd rfl hnil
  | [d] =>
    have hd : d ≠ '\\' := by
      rintro rfl
      exact hne rfl
    rw [token?_cons hd]
    exact token?_cons hd
  | d :: e :: rest =>
    by_cases hd : d = '\\'
    · subst hd
      rfl
    · rw [token?_cons hd]
      exact token?_cons hd

theorem append_close_ne (rest behind : Text) : rest ++ ')' :: behind ≠ ['\\'] := by
  intro h
  have hclose : ')' ∈ rest ++ ')' :: behind := by simp
  rw [h] at hclose
  simp at hclose

theorem of_skip_eq_ok {n : Nat} {u : Unit} {s' : State} (h : skip n s = .ok (u, s')) :
    s.rest.drop n ≠ ['\\'] ∧ s' = s.past n := by
  by_cases hne : s.rest.drop n = ['\\']
  · rw [skip, if_pos hne] at h
    cases h
  · rw [skip_of_ne hne] at h
    cases h
    exact ⟨hne, rfl⟩

/-- The outcome of the longer run, when the shorter one has come to `s'` with a result: the same
result, or misplaced flags if the shorter run has set flags. -/
def Continued (behind : Text) (a : α) (s' : State) (r : Except Fault (α × State)) : Prop :=
  (s'.flags = .none ∧ ∃ t', r = .ok (a, t') ∧ s'.Extends behind t') ∨
    (s'.flags ≠ .none ∧ ∃ place, r = .error (.malformed .misplacedFlags place))

/-- The run of `x` at `s` is carried over to the run of `y` at `t`, which has a closing parenthesis
and more text behind the same rest.  `inside` says that only runs count which leave some of their
text. -/
def Carries (behind : Text) (inside : Bool) (s t : State) (x y : Parse α) : Prop :=
  s.rest ≠ ['\\'] → ∀ a s', x s = .ok (a, s') → s.Leads s' ∧
    (s.flags = .none → s.Extends behind t → (inside = true → s'.rest ≠ []) →
      Continued behind a s' (y t))

namespace Carries

variable {x y : Parse α} {f g : α → Parse β}

theorem of_error {e : Fault} (h : x s = .error e) : Carries behind inside s t x y := by
  intro _ a s' hx
  rw [h] at hx
  cases hx

theorem of_eq {x' y' : Parse α} (hx : x = x') (hy : y = y') (h : Carries behind inside s t x y) :
    Carries behind inside s t x' y' := hx ▸ hy ▸ h

theorem pure (a : α) : Carries behind inside s t (pure a) (pure a) := by
  rintro hne _ _ ⟨⟩
  exact ⟨.refl hne, fun hflags hext _ => .inl ⟨hflags, t, rfl, hext⟩⟩

/-- Once flags are set, the longer run has ended. -/
theorem of_flags_ne {y' : Parse α} (hflags : s.flags ≠ .none) (h : Carries behind true s t x y') :
    Carries behind inside s t x y :=
  fun hne a s' hx => ⟨(h hne a s' hx).1, fun hnone => absurd hnone hflags⟩

/-- Two steps, one after the other.  The first one leaves some text if the second one needs it. -/
theorem bind_inside {within : Bool} (hx : Carries behind within s t x y)
    (hneeds : within = true → inside = true ∨
      ∀ a s', x s = .ok (a, s') → s'.rest = [] → ∃ e, f a s' = .error e)
    (hf : ∀ a s', x s = .ok (a, s') → s.Leads s' → ∀ t', Carries behind inside s' t' (f a) (g a)) :
    Carries behind inside s t (x >>= f) (y >>= g) := by
  intro hne b s'' hxf
  obtain ⟨a, s', hs', hf'⟩ := of_bind_eq_ok hxf
  obtain ⟨hleads, hcontinued⟩ := hx hne a s' hs'
  have hstep := hf a s' hs' hleads
  have hleads' := (hstep t hleads.rest_ne b s'' hf').1
  refine ⟨hleads.trans hleads', fun hflags hext hinside => ?_⟩
  have hrest : within = true → s'.rest ≠ [] := by
    intro hwithin hnil
    rcases hneeds hwithin with htrue | herror
    · exact hleads'.rest_ne_nil (hinside htrue) hnil
    · obtain ⟨e, he⟩ := herror a s' hs' hnil
      rw [he] at hf'
      cases hf'
  rcases hcontinued hflags hext hrest with ⟨hnone, t', ht', hext'⟩ | ⟨hset, place, hplace⟩
  · have h := (hstep t' hleads.rest_ne b s'' hf').2 hnone hext' hinside
    rwa [Continued, bind_of_ok ht']
  · exact .inr ⟨hleads'.flags_ne hset, place, bind_of_error hplace⟩

theorem bind (hx : Carries behind inside s t x y)
    (hf : ∀ a s', x s = .ok (a, s') → s.Leads s' → ∀ t', Carries behind inside s' t' (f a) (g a)) :
    Carries behind inside s t (x >>= f) (y >>= g) :=
  bind_inside hx .inl hf

theorem ite {c : Prop} [Decidable c] {x' y' : Parse α}
    (hthen : c → Carries behind inside s t x y) (helse : ¬c → Carries behind inside s t x' y') :
    Carries behind inside s t (if c then x else x') (if c then y else y') := by
  by_cases h : c
  · rw [if_pos h, if_pos h]
    exact hthen h
  · rw [if_neg h, if_neg h]
    exact helse h

/-- A check that ends the run if it fails. -/
theorem check {c : Prop} [Decidable c] {x' y' : Parse PUnit} {k k' : PUnit → Parse α} {e : Fault}
    (hfail : x' s = .error e) (h : ¬c → Carries behind inside s t (k ⟨⟩) (k' ⟨⟩)) :
    Carries behind inside s t (if c then x' >>= k else k ⟨⟩) (if c then y' >>= k' else k' ⟨⟩) :=
  ite (fun _ => of_error (bind_of_error hfail)) h

/-- At the end of the shorter text the longer run sees the closing parenthesis. -/
theorem peek {f g : Option Token → Parse β}
    (hend : s.rest = [] → Carries behind inside s t (f none) (g (some [')'])))
    (htoken : ∀ tok, token? s.rest = some tok →
      Carries behind inside s t (f (some tok)) (g (some tok))) :
    Carries behind inside s t (peek >>= f) (peek >>= g) := by
  intro hne a s' h
  change f (token? s.rest) s = _ at h
  change _ ∧ (_ → _ → _ → Continued behind a s' (g (token? t.rest) t))
  by_cases hnil : s.rest = []
  · have htok : token? s.rest = none := by rw [hnil]; rfl
    rw [htok] at h
    refine ⟨(hend hnil hne a s' h).1, fun hflags hext => ?_⟩
    rw [hext.rest, hnil, List.nil_append, token?_cons (by decide)]
    exact (hend hnil hne a s' h).2 hflags hext
  · obtain ⟨tok, htok⟩ := exists_token? hnil
    rw [htok] at h
    refine ⟨(htoken tok htok hne a s' h).1, fun hflags hext => ?_⟩
    rw [hext.rest, token?_append _ _ hne hnil, htok]
    exact (htoken tok htok hne a s' h).2 hflags hext

theorem skip {n : Nat} (hn : n ≤ s.rest.length) :
    Carries behind inside s t (Parse.skip n) (Parse.skip n) := by
  intro _ _ s' h
  obtain ⟨hne, rfl⟩ := of_skip_eq_ok h
  refine ⟨⟨hne, by simp, id⟩, fun hflags hext _ => .inl ⟨hflags, t.past n, ?_, ?_⟩⟩
  · refine skip_of_ne ?_
    rw [hext.rest, List.drop_append_of_le_length hn]
    exact append_close_ne _ behind
  · have hrest : (t.past n).rest = (s.past n).rest ++ ')' :: behind := by
      rw [State.past_rest, State.past_rest, hext.rest, List.drop_append_of_le_length hn]
    exact { hext with rest := hrest }

theorem skip_token {tok : Token} (h : token? s.rest = some tok) :
    Carries behind inside s t (Parse.skip tok.length) (Parse.skip tok.length) :=
  skip (length_of_token? h).2

/-- A token is taken that must be there. -/
theorem get {f g : Option Token → Parse β} (hend : s.rest = [] → ∃ e, f none s = .error e)
    (hf : ∀ tok s', token? s.rest = some tok → s' = s.past tok.length → ∀ t',
      Carries behind inside s' t' (f (some tok)) (g (some tok))) :
    Carries behind inside s t (Parse.get >>= f) (Parse.get >>= g) := by
  rw [Parse.get, bind_assoc, bind_assoc]
  refine peek (fun hnil => ?_) fun tok htok => ?_
  · obtain ⟨e, he⟩ := hend hnil
    exact of_error he
  · rw [bind_assoc, bind_assoc]
    refine bind (skip_token htok) fun _ s' hs' _ t' => ?_
    exact hf tok s' htok (of_skip_eq_ok hs').2 t'

theorem eat {c : Char} (hc : c ≠ ')') : Carries behind inside s t (Parse.eat c) (Parse.eat c) := by
  refine peek (fun _ => ?_) fun tok htok => ite (fun h => ?_) fun _ => pure false
  · rw [if_neg (by simp), if_neg (by simpa using hc.symm)]
    exact pure false
  · obtain rfl := Option.some.inj h
    exact bind (skip_token htok) fun _ _ _ _ _ => pure true

theorem closeParenthesis (start start' : Nat) :
    Carries behind inside s t (Parse.closeParenthesis start) (Parse.closeParenthesis start') := by
  rw [Parse.closeParenthesis, Parse.closeParenthesis, Parse.eat, bind_assoc, bind_assoc]
  refine peek (fun _ => of_error rfl) fun tok htok => ?_
  by_cases h : some tok = some [')']
  · obtain rfl := Option.some.inj h
    rw [if_pos rfl, bind_assoc, bind_assoc]
    exact bind (skip_token htok) fun _ _ _ _ _ => pure ()
  · rw [if_neg h]
    exact of_error rfl

/-- What is read off the states is the same on both sides, but for text and places. -/
theorem state {f g : State → Parse β}
    (h : ∀ t, s.Extends behind t → Carries behind inside s t (f s) (g t)) :
    Carries behind inside s t (StateT.get >>= f) (StateT.get >>= g) := by
  intro hne b s' hf
  let extended : State := { s with rest := s.rest ++ ')' :: behind }
  have hextended : s.Extends behind extended := ⟨rfl, rfl, rfl, rfl, rfl, rfl⟩
  refine ⟨(h extended hextended hne b s' hf).1, fun hflags hext => ?_⟩
  exact (h t hext hne b s' hf).2 hflags hext

theorem position {f g : Nat → Parse β}
    (h : Carries behind inside s t (f s.position) (g t.position)) :
    Carries behind inside s t (Parse.position >>= f) (Parse.position >>= g) := h

/-- More text remains in the longer run. -/
theorem remaining {f g : Nat → Parse β}
    (h : ∀ m, s.rest.length ≤ m → Carries behind inside s t (f s.rest.length) (g m)) :
    Carries behind inside s t (Parse.remaining >>= f) (Parse.remaining >>= g) := by
  intro hne a s' hf
  refine ⟨(h _ (Nat.le_refl _) hne a s' hf).1, fun hflags hext => ?_⟩
  have hle : s.rest.length ≤ t.rest.length := by simp [hext.rest]
  exact (h _ hle hne a s' hf).2 hflags hext

theorem modify {u v : State → State} (hrest : (u s).rest = s.rest) (hflags : (u s).flags = s.flags)
    (hext : s.Extends behind t → (u s).Extends behind (v t)) :
    Carries behind inside s t (modify u) (modify v) := by
  rintro hne _ _ ⟨⟩
  refine ⟨⟨by rwa [hrest], by rw [hrest], by rw [hflags]; exact id⟩, fun hnone ht _ => .inl ?_⟩
  exact ⟨hflags.trans hnone, v t, rfl, hext ht⟩

end Carries

/-- A step that is carried over wherever it is taken. -/
def Steady (x : Parse α) : Prop := ∀ behind inside s t, Carries behind inside s t x x

namespace Steady

variable {x : Parse α} {f : α → Parse β}

theorem carries (h : Steady x) : Carries behind inside s t x x := h behind inside s t

theorem pure (a : α) : Steady (pure a) := fun _ _ _ _ => .pure a

theorem fail (cause : Cause) (back : Nat) : Steady (fail cause back : Parse α) :=
  fun _ _ _ _ => .of_error rfl

theorem raise (fault : Fault) : Steady (raise fault : Parse α) := fun _ _ _ _ => .of_error rfl

theorem bind (hx : Steady x) (hf : ∀ a, Steady (f a)) : Steady (x >>= f) :=
  fun _ _ _ _ => hx.carries.bind fun a _ _ _ _ => (hf a).carries

theorem ite {c : Prop} [Decidable c] {y : Parse α} (hx : Steady x) (hy : Steady y) :
    Steady (if c then x else y) := by
  split
  · exact hx
  · exact hy

/-- A check in front of a step. -/
theorem check {c : Prop} [Decidable c] {x : Parse PUnit} {k : PUnit → Parse α} (hx : Steady x)
    (hk : ∀ u, Steady (k u)) : Steady (if c then x >>= k else k ⟨⟩) :=
  ite (hx.bind hk) (hk ⟨⟩)

/-- A choice of two steps in front of a third one. -/
theorem ite_bind {c : Prop} [Decidable c] {y : Parse α} (hx : Steady x) (hy : Steady y)
    (hf : ∀ a, Steady (f a)) : Steady (if c then x >>= f else y >>= f) :=
  ite (hx.bind hf) (hy.bind hf)

theorem eat {c : Char} (hc : c ≠ ')') : Steady (eat c) := fun _ _ _ _ => .eat hc

/-- What is read off the state without places and text. -/
theorem read {x : Parse α} {r : State → α} (hx : ∀ s, x s = .ok (r s, s))
    (hr : ∀ behind s t, State.Extends behind s t → r t = r s) : Steady x := by
  intro behind inside s t hne a s' h
  rw [hx] at h
  cases h
  refine ⟨.refl hne, fun hflags hext _ => .inl ⟨hflags, t, ?_, hext⟩⟩
  rw [hx, hr behind s t hext]

end Steady

/-- Whatever a step returns has a property, together with the state behind it. -/
def Returns (p : α → State → Prop) (x : Parse α) : Prop := ∀ s a s', x s = .ok (a, s') → p a s'

namespace Returns

variable {p : α → State → Prop} {q : β → State → Prop} {x : Parse α} {f : α → Parse β}

theorem pure {a : α} (h : ∀ s, p a s) : Returns p (pure a) := by
  rintro s _ _ ⟨⟩
  exact h s

theorem fail (cause : Cause) (back : Nat) : Returns p (fail cause back) := by
  intro s a s' h
  cases h

theorem of_bind (hf : ∀ a, Returns q (f a)) : Returns q (x >>= f) := by
  intro s b s'' h
  obtain ⟨a, s', -, hb⟩ := of_bind_eq_ok h
  exact hf a s' b s'' hb

theorem of_bind_fail {cause : Cause} {back : Nat} : Returns q (Parse.fail cause back >>= f) := by
  intro s b s'' h
  cases h

theorem ite {c : Prop} [Decidable c] {y : Parse α} (hx : c → Returns p x) (hy : ¬c → Returns p y) :
    Returns p (if c then x else y) := by
  split
  next h => exact hx h
  next h => exact hy h

/-- A check that ends the run if it fails. -/
theorem check {c : Prop} [Decidable c] {cause : Cause} {back : Nat} {k : PUnit → Parse α}
    (h : ¬c → Returns p (k ⟨⟩)) :
    Returns p (if c then Parse.fail cause back >>= k else k ⟨⟩) :=
  ite (fun _ => of_bind_fail) h

end Returns
end Parse
end Stencil.Regex
