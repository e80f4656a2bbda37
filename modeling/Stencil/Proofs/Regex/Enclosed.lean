import Stencil.Proofs.Regex.Embedding

/-! # Expressions in groups

An expression is used as a group that captures nothing, with padding around it.  If it compiles
alone it also compiles there, unless it sets flags for all of itself: in the group they are
misplaced.
-/
namespace Stencil.Regex

/-- The flags that an expression sets for all of itself. -/
def ownFlags (source : Text) : Flags :=
  match Parse.expression Unicode.codeOfName? (.initial source) with
  | .ok (_, s) => s.flags
  | .error _ => .none

/-- An expression as a group that captures nothing, between two texts. -/
def enclosed (pre source post : Text) : Text := pre ++ ("(?:".toList ++ (source ++ ')' :: post))

theorem length_enclosed (pre source post : Text) :
    (enclosed pre source post).length = pre.length + source.length + post.length + 4 := by
  simp [enclosed]
  omega

namespace Parse

variable {names : Text → Option Nat} {s s' : State}

theorem expression_of_error {source : Text} {e : Fault} (hne : source ≠ ['\\'])
    (h : alternatives names .none true [] (2 * source.length + 4) (.initial source) = .error e) :
    expression names (.initial source) = .error e := by
  have hskip : skip 0 (.initial source) = .ok ((), .initial source) := skip_of_ne hne
  rw [expression, bind_of_ok hskip, state_bind, remaining_bind, State.initial_flags,
    State.initial_rest, bind_of_error h]

theorem alternatives_of_error {n : Nat} {e : Fault}
    (h : sequence names .none true [] n s = .error e) :
    alternatives names .none true [] (n + 1) s = .error e := by
  have hsequence : sequence names .none (true && List.isEmpty (α := List Piece) []) [] n s =
      .error e := h
  rw [alternatives, bind_of_error hsequence]

section Enclosed
variable {pre source post : Text} {ps qs : List Piece}

theorem enclosed_ne (hpre : Reads pre ps) : enclosed pre source post ≠ ['\\'] :=
  (hpre.apart _ (apart_cons (by decide))).1

/-- The pieces in front of the group are read, and then what is inside. -/
theorem sequence_enclosed (names : Text → Option Nat) (hpre : Reads pre ps) (source post : Text) :
    ∃ k, 2 * (source.length + post.length) + 4 ≤ k ∧
      sequence names .none true [] (2 * (enclosed pre source post).length + 3)
          (.initial (enclosed pre source post)) =
        (alternatives names .none false [] k >>= fun inner =>
          closeParenthesis pre.length >>= fun _ =>
            sequence names .none true (.plainGroup inner :: ps.reverse) k)
          ((State.initial (enclosed pre source post)).past (pre.length + 3)) := by
  obtain ⟨n, hn, hrun⟩ := hpre.run
  have hlength := length_enclosed pre source post
  obtain ⟨k, hk⟩ : ∃ k, 2 * (enclosed pre source post).length + 3 = k + 1 + n :=
    ⟨2 * (enclosed pre source post).length + 3 - 1 - n, by omega⟩
  have hbehind : ((State.initial (enclosed pre source post)).past pre.length).rest =
      "(?:".toList ++ (source ++ ')' :: post) := List.drop_left
  refine ⟨k, by omega, ?_⟩
  rw [hk, hrun names true [] (k + 1) _ _ (by omega) rfl (apart_cons (by decide)), List.append_nil,
    sequence_plain hbehind (append_close_ne source post), State.past_past]
  change (_ >>= fun _ => closeParenthesis (0 + pre.length) >>= _) _ = _
  rw [Nat.zero_add]

/-- The pieces up to the end of the expression. -/
theorem sequence_to_end (hpost : Reads post qs) {first : Bool} {pieces : List Piece}
    (hs : s.rest = post) {fuel : Nat} (hfuel : 2 * post.length < fuel) :
    sequence names .none first pieces fuel s =
      .ok (Piece.opened (pieces.reverse ++ qs), s.past post.length) := by
  obtain ⟨n, hn, hrun⟩ := hpost.run
  obtain ⟨k, rfl⟩ : ∃ k, fuel = k + 1 + n := ⟨fuel - 1 - n, by omega⟩
  have hend : (s.past post.length).rest = [] := by rw [State.past_rest, hs, List.drop_length]
  rw [hrun names first pieces (k + 1) s [] (by omega) (by rw [hs, List.append_nil])
    (AtEnd.apart (.inl rfl)), sequence_end (.inl hend)]
  simp

theorem extends_enclosed (pre source post : Text) :
    (State.initial source).Extends post
      ((State.initial (enclosed pre source post)).past (pre.length + 3)) := by
  refine ⟨?_, rfl, rfl, rfl, rfl, rfl⟩
  change (enclosed pre source post).drop _ = source ++ ')' :: post
  rw [enclosed, ← List.drop_drop, List.drop_left]
  rfl

section Alone
variable {pieces : List Piece}
  (h : alternatives names .none true [] (2 * source.length + 4) (.initial source) =
    .ok (pieces, s'))
  (hne : source ≠ ['\\'])
include h hne

/-- What is inside the group is read as it is alone. -/
theorem continued_enclosed (pre post : Text) {k : Nat} (hk : 2 * source.length + 4 ≤ k) :
    Continued post pieces s' (alternatives names .none false [] k
      ((State.initial (enclosed pre source post)).past (pre.length + 3))) := by
  have hcarries : Carries post false (.initial source)
      ((State.initial (enclosed pre source post)).past (pre.length + 3))
      (alternatives names .none true [] (2 * source.length + 4))
      (alternatives names .none false [] k) :=
    (carries_steps names _).2 _ _ _ _ _ _ _ _ hk nofun fun _ _ => rfl
  exact (hcarries hne pieces s' h).2 rfl (extends_enclosed pre source post) nofun

theorem sequence_eq_ok (hflags : s'.flags = .none) (hend : s'.rest = []) (hpre : Reads pre ps)
    (hpost : Reads post qs) :
    ∃ t, sequence names .none true [] (2 * (enclosed pre source post).length + 3)
        (.initial (enclosed pre source post)) =
          .ok (Piece.opened ps ++ pieces ++ Piece.opened qs, t) ∧
      t.rest = [] ∧ t.flags = .none ∧ t.widths = s'.widths ∧
        t.conditions.map Prod.fst = s'.conditions.map Prod.fst := by
  obtain ⟨k, hk, hsequence⟩ := sequence_enclosed names hpre source post
  rcases continued_enclosed h hne pre post (k := k) (by omega) with
    ⟨-, t, hinner, hext⟩ | ⟨hset, -⟩
  · have hrest : t.rest = ')' :: post := by rw [hext.rest, hend, List.nil_append]
    have hbehind : (t.past 1).rest = post := by rw [State.past_rest, hrest]; rfl
    refine ⟨(t.past 1).past post.length, ?_, ?_, hext.flags.trans hflags, hext.widths,
      hext.conditions⟩
    · rw [hsequence, bind_of_ok hinner, bind_of_ok (closeParenthesis_eq _ hrest hpost.ne),
        sequence_to_end hpost hbehind (by omega)]
      simp [Piece.opened, Piece.open?]
    · rw [State.past_rest, hbehind, List.drop_length]
  · exact absurd hflags hset

theorem sequence_eq_error (hflags : s'.flags ≠ .none) (hpre : Reads pre ps) (post : Text) :
    ∃ place, sequence names .none true [] (2 * (enclosed pre source post).length + 3)
      (.initial (enclosed pre source post)) = .error (.malformed .misplacedFlags place) := by
  obtain ⟨k, hk, hsequence⟩ := sequence_enclosed names hpre source post
  rcases continued_enclosed h hne pre post (k := k) (by omega) with
    ⟨hnone, -⟩ | ⟨-, place, hplace⟩
  · exact absurd hnone hflags
  · exact ⟨place, by rw [hsequence, bind_of_error hplace]⟩

end Alone

section Whole
variable {tree : Tree} (h : expression names (.initial source) = .ok (tree, s))
include h

theorem exists_expression_enclosed (hfault : tree.fault? s.flags.template = none)
    (hset : s.flags = .none) (hpre : Reads pre ps) (hpost : Reads post qs)
    (hfaults : ∀ p ∈ Piece.opened ps ++ Piece.opened qs, p.tree.fault? false = none) :
    ∃ tree t, expression names (.initial (enclosed pre source post)) = .ok (tree, t) ∧
      tree.fault? t.flags.template = none := by
  obtain ⟨hne, pieces, halternatives, -, hend, hconditions, rfl⟩ := expression_eq_ok_iff.1 h
  obtain ⟨t, hsequence, htend, htset, hwidths, hfst⟩ :=
    sequence_eq_ok halternatives hne hset hend hpre hpost
  refine ⟨_, t, expression_eq_ok_iff.2 ⟨enclosed_ne hpre, _,
    alternatives_of_sequence hsequence (.inl htend), ?_, htend, ?_, rfl⟩, ?_⟩
  · rw [htset]
    nofun
  · rwa [hfst, hwidths]
  rw [hset, trees_eq_ofList] at hfault
  rw [htset, trees_eq_ofList]
  refine fault?_ofList_eq_none_iff.2 fun u hu => ?_
  obtain ⟨p, hp, rfl⟩ := List.mem_map.1 hu
  simp only [List.mem_append] at hp hfaults
  rcases hp with (hp | hp) | hp
  · exact hfaults p (.inl hp)
  · exact fault?_ofList_eq_none_iff.1 hfault _ (List.mem_map_of_mem hp)
  · exact hfaults p (.inr hp)

theorem expression_enclosed_of_flags (hset : s.flags ≠ .none) (hpre : Reads pre ps) (post : Text) :
    ∃ place, expression names (.initial (enclosed pre source post)) =
      .error (.malformed .misplacedFlags place) := by
  obtain ⟨hne, pieces, halternatives, -, -, -, -⟩ := expression_eq_ok_iff.1 h
  obtain ⟨place, hsequence⟩ := sequence_eq_error halternatives hne hset hpre post
  exact ⟨place, expression_of_error (enclosed_ne hpre) (alternatives_of_error hsequence)⟩

end Whole
end Enclosed
end Parse

theorem parse_of_error {names : Text → Option Nat} {source : Text} {e : Fault}
    (h : Parse.expression names (.initial source) = .error e) :
    parse names .none source = .error e := by
  change (Parse.expression names (.initial source) >>= _) = _
  rw [h]
  rfl

theorem compile_of_error {source : Text} {e : Fault}
    (h : parse Unicode.codeOfName? .none source = .error e) :
    compile source = .error ⟨source, e⟩ := by
  rw [compile, compileWith, h]

theorem ownFlags_eq {source : Text} {tree : Tree} {s : State}
    (h : Parse.expression Unicode.codeOfName? (.initial source) = .ok (tree, s)) :
    ownFlags source = s.flags := by
  rw [ownFlags, h]

section Enclosed
variable {pre source post : Text} {ps qs : List Piece} {r : Regex}

/-- An expression that sets no flags for all of itself compiles in a group, between texts whose
pieces have no fault. -/
theorem exists_compile_enclosed (h : compile source = .ok r) (hflags : ownFlags source = .none)
    (hpre : Parse.Reads pre ps) (hpost : Parse.Reads post qs)
    (hfaults : ∀ p ∈ Piece.opened ps ++ Piece.opened qs, p.tree.fault? false = none) :
    ∃ r, compile (enclosed pre source post) = .ok r := by
  obtain ⟨tree, s, hexpression, hfault, -⟩ := parse_eq_ok_iff.1 (compile_eq_ok_iff.1 h).1
  have hset : s.flags = .none := by rw [← ownFlags_eq hexpression, hflags]
  obtain ⟨tree', t, hexpression', hfault'⟩ :=
    Parse.exists_expression_enclosed hexpression hfault hset hpre hpost hfaults
  refine ⟨⟨enclosed pre source post, tree'.settle⟩, compile_eq_ok_iff.2 ⟨?_, rfl⟩⟩
  exact parse_eq_ok_iff.2 ⟨tree', t, hexpression', hfault', rfl⟩

/-- In a group an expression that sets flags for all of itself has them at the wrong place. -/
theorem compile_enclosed_of_flags (h : compile source = .ok r) (hflags : ownFlags source ≠ .none)
    (hpre : Parse.Reads pre ps) (post : Text) :
    ∃ place, compile (enclosed pre source post) =
      .error ⟨enclosed pre source post, .malformed .misplacedFlags place⟩ := by
  obtain ⟨tree, s, hexpression, -, -⟩ := parse_eq_ok_iff.1 (compile_eq_ok_iff.1 h).1
  have hset : s.flags ≠ .none := by rwa [← ownFlags_eq hexpression]
  obtain ⟨place, hplace⟩ := Parse.expression_enclosed_of_flags hexpression hset hpre post
  exact ⟨place, compile_of_error (parse_of_error hplace)⟩

end Enclosed

end Stencil.Regex
