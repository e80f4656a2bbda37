import Stencil.Proofs.Template.Deviation
import Stencil.Proofs.Template.Repetition

/-! # The lines of a report

Whatever a template, its patterns or a candidate hold comes into a report quoted, and quoted text is on
one line.  So the report of a read has three lines: the primary one, one for the template and one for the
candidate.
-/
namespace Stencil

namespace Text
variable {t u : Text}

/-- There is no line feed in the text. -/
def OneLine (t : Text) : Prop := '\n' ∉ t

instance (t : Text) : Decidable (OneLine t) := inferInstanceAs (Decidable (_ ∉ _))

theorem oneLine_append : OneLine (t ++ u) ↔ OneLine t ∧ OneLine u := by
  simp [OneLine, not_or]

theorem OneLine.append (ht : OneLine t) (hu : OneLine u) : OneLine (t ++ u) := oneLine_append.2 ⟨ht, hu⟩

theorem oneLine_cons {c : Char} : OneLine (c :: t) ↔ c ≠ '\n' ∧ OneLine t := by
  simp [OneLine, not_or, eq_comm]

theorem OneLine.intercalate {separator : Text} (hs : OneLine separator) {ts : List Text}
    (h : ∀ t ∈ ts, OneLine t) : OneLine (separator.intercalate ts) := by
  induction ts with
  | nil => exact List.not_mem_nil
  | cons t ts ih =>
    obtain ⟨ht, hts⟩ := List.forall_mem_cons.1 h
    cases ts with
    | nil => rwa [List.intercalate_singleton]
    | cons u ts =>
      rw [List.intercalate_cons_cons]
      exact oneLine_append.2 ⟨oneLine_append.2 ⟨ht, hs⟩, ih hts⟩

theorem oneLine_bracketed {ts : List Text} (h : ∀ t ∈ ts, OneLine t) : OneLine (bracketed ts) := by
  have hjoin : OneLine (", ".toList.intercalate ts) := OneLine.intercalate (by decide) h
  rw [bracketed, List.cons_append, oneLine_cons, oneLine_append]
  exact ⟨by decide, hjoin, by decide⟩

theorem oneLine_ofNat (n : Nat) : OneLine (ofNat n) := by
  intro h
  have hdigit := Nat.isDigit_of_mem_toDigits (by decide) (by decide) h
  exact absurd hdigit (by decide)

theorem oneLine_ofInt (n : Int) : OneLine (ofInt n) := by
  rw [ofInt]
  split
  · exact oneLine_cons.2 ⟨by decide, oneLine_ofNat _⟩
  · exact oneLine_ofNat _

theorem oneLine_hex (width n : Nat) : OneLine (hex width n) := by
  have hdigits : ∀ d < 16, OneLine [Nat.digitChar d] := by decide
  induction width generalizing n with
  | zero => simp [OneLine, hex]
  | succ width ih => exact oneLine_append.2 ⟨ih _, hdigits _ (Nat.mod_lt n (by decide))⟩

/-- A line feed is escaped, and all that stands for other characters is on one line. -/
theorem oneLine_quoteChar {q : Char} (hq : q ≠ '\n') (c : Char) : OneLine (quoteChar q c) := by
  have hescape (e : Char) (he : e ≠ '\n') {t : Text} (ht : OneLine t) : OneLine ('\\' :: e :: t) :=
    oneLine_cons.2 ⟨by decide, oneLine_cons.2 ⟨he, ht⟩⟩
  unfold quoteChar
  split
  · next h =>
    have hc : c ≠ '\n' := by
      rintro rfl
      rcases h with h | h
      · exact hq h.symm
      · exact absurd h (by decide)
    exact hescape c hc (by decide)
  split
  · exact hescape 'n' (by decide) (by decide)
  next hc =>
  split
  · exact hescape 't' (by decide) (by decide)
  split
  · exact hescape 'r' (by decide) (by decide)
  split
  · exact oneLine_cons.2 ⟨hc, by decide⟩
  split
  · exact hescape 'x' (by decide) (oneLine_hex 2 _)
  split
  · exact hescape 'u' (by decide) (oneLine_hex 4 _)
  · exact hescape 'U' (by decide) (oneLine_hex 8 _)

theorem oneLine_quote (t : Text) : OneLine t.quote := by
  have hq : quoteFor t ≠ '\n' := by
    rw [quoteFor]
    split <;> decide
  have hchars : OneLine (t.flatMap (quoteChar (quoteFor t))) := by
    intro h
    obtain ⟨c, -, hc⟩ := List.mem_flatMap.1 h
    exact oneLine_quoteChar hq c hc
  rw [quote, List.cons_append, oneLine_cons, oneLine_append]
  exact ⟨hq, hchars, oneLine_cons.2 ⟨hq, by decide⟩⟩

end Text

open Text

theorem Deviation.oneLine_message (d : Deviation) : OneLine d.message := by
  have hwhat : OneLine (if d.isPattern then "Expected text matching pattern ".toList
      else "Expected ".toList) := by
    split <;> decide
  have hwhere : OneLine (if d.atEnd then " at end of template".toList
      else " at position ".toList ++ ofInt d.position) := by
    split
    · decide
    · exact .append (by decide) (oneLine_ofInt _)
  unfold Deviation.message
  simp only [oneLine_append]
  exact ⟨⟨⟨⟨⟨⟨hwhat, oneLine_quote _⟩, hwhere⟩, by decide⟩, oneLine_ofInt _⟩, by decide⟩,
    oneLine_quote _⟩

theorem Repetition.oneLine_message (r : Repetition) : OneLine r.message := by
  have hpositions : OneLine (bracketed (r.positions.map ofInt)) :=
    oneLine_bracketed (List.forall_mem_map.2 fun n _ => oneLine_ofInt n)
  have hvalues : OneLine (bracketed (r.values.map quote)) :=
    oneLine_bracketed (List.forall_mem_map.2 fun t _ => oneLine_quote t)
  unfold Repetition.message
  simp only [oneLine_append]
  exact ⟨⟨⟨⟨⟨⟨⟨by decide, oneLine_quote _⟩, by decide⟩, oneLine_ofNat _⟩, by decide⟩, hpositions⟩,
    by decide⟩, hvalues⟩

namespace Surroundings
variable (s : Surroundings)

theorem oneLine_templateLine (template : Text) : OneLine (templateLine template) :=
  .append (by decide) (oneLine_quote template)

theorem oneLine_candidateLine (offset : Option Int) (candidate : Text) :
    OneLine (s.candidateLine offset candidate) := by
  unfold candidateLine
  cases offset with
  | none => exact .append (by decide) (oneLine_quote _)
  | some o =>
    have hbegin : OneLine ("  candidate at offset ".toList ++ ofInt o) :=
      .append (by decide) (oneLine_ofInt o)
    exact (hbegin.append (by decide)).append (oneLine_quote _)

theorem prefix_candidateLine (offset : Option Int) (candidate : Text) :
    "  candidate".toList <+: s.candidateLine offset candidate := by
  unfold candidateLine
  cases offset with
  | none =>
    have hbegin : "  candidate".toList <+: "  candidate: ".toList := by decide
    exact hbegin.trans (List.prefix_append _ _)
  | some o =>
    have hbegin : "  candidate".toList <+: "  candidate at offset ".toList := by decide
    dsimp only
    rw [List.append_assoc, List.append_assoc]
    exact hbegin.trans (List.prefix_append _ _)

theorem excerpt_ofRead (source candidate text : Text) : (ofRead source candidate).excerpt text =
    if text.length ≤ 40 then text else text.take 40 ++ "...".toList := by
  have htake : text.takeTo (ofRead source candidate).excerptLength = text.take 40 :=
    takeTo_natCast text 40
  have hlength : (ofRead source candidate).excerptLength = (40 : Nat) := rfl
  rw [excerpt, htake, hlength]
  simp only [Int.ofNat_le]

end Surroundings

open Surroundings Template

/-- The lines of a report about a template and a candidate. -/
theorem ReadError.split_message {e : ReadError} {source candidate : Text} (hline : OneLine e.headline)
    (hs : e.surroundings = some (.ofRead source candidate)) :
    e.message.splitOn '\n' = [e.headline, templateLine source,
      (ofRead source candidate).candidateLine e.offset candidate] := by
  have hdescribe : (ofRead source candidate).describe e.offset = templateLine source ++
      '\n' :: (ofRead source candidate).candidateLine e.offset candidate := by
    simp [describe, lines, ofRead, List.intercalate_cons_cons]
  have hne : ((ofRead source candidate).describe e.offset).isEmpty = false := by
    simp [hdescribe]
  have hmessage : e.message = e.headline ++ '\n' :: (ofRead source candidate).describe e.offset := by
    simp [message, hs, hne]
  rw [hmessage, List.splitOn_append_cons_self_of_not_mem hline, hdescribe,
    List.splitOn_append_cons_self_of_not_mem (oneLine_templateLine source),
    List.splitOn_eq_singleton (oneLine_candidateLine _ _ candidate)]

namespace Reader
variable {text : Text} {targets : List Text} {patterns : List (Option Pattern)} {candidate : Text}

/-- What a read is refused with: one line, with the template and the candidate beside it. -/
theorem of_read_eq_error {e : ReadError}
    (h : (ofPatterns (compile text targets) patterns).read candidate = .error (.error e)) :
    OneLine e.headline ∧ e.surroundings = some (.ofRead text candidate) := by
  have hsource := source_ofPatterns text targets patterns
  cases mismatch_of_read_eq_error hsource (fun b hb => getSigned_ofPatterns_ne_none hb) h with
  | badFormat d s => exact ⟨d.oneLine_message, ((read_eq_badFormat_iff hsource).1 h).2⟩
  | tooMany rep s => exact ⟨rep.oneLine_message, ((read_eq_tooMany_iff hsource).1 h).1⟩

/-- The report of a read has three lines, whatever the template, its patterns and the candidate hold.
The last one of a deviation shows the candidate from the offset on, up to forty characters of it. -/
theorem message_lines (text : Text) (targets : List Text) (patterns : List (Option Pattern))
    (candidate : Text) (e : ReadError)
    (h : (ofPatterns (compile text targets) patterns).read candidate = .error (.error e)) :
    ∃ last, e.message.splitOn '\n' = [e.headline, "  template: ".toList ++ text.quote, last] ∧
      "  candidate".toList <+: last ∧
        ∀ d, e.fault = .badFormat d → ∃ offset : Nat, d.offset = offset ∧
          last = "  candidate at offset ".toList ++ ofNat offset ++ ": ".toList ++
            quote (if (candidate.drop offset).length ≤ 40 then candidate.drop offset
              else (candidate.drop offset).take 40 ++ "...".toList) := by
  obtain ⟨hline, hs⟩ := of_read_eq_error h
  refine ⟨_, ReadError.split_message hline hs, prefix_candidateLine _ _ candidate, fun d hd => ?_⟩
  have hread : (ofPatterns (compile text targets) patterns).read candidate =
      .error (.error ⟨.badFormat d, e.surroundings⟩) := hd ▸ h
  have hblocks := ((read_eq_badFormat_iff (source_ofPatterns text targets patterns)).1 hread).1
  obtain ⟨position, offset, texts, hfirst⟩ := exists_firstDeviation_iff.2 hblocks
  refine ⟨offset, hfirst.offset_eq, ?_⟩
  have hoffset : e.offset = some (offset : Int) := by
    rw [ReadError.offset, hd]
    exact congrArg some hfirst.offset_eq
  have hdigits : ofInt offset = ofNat offset := by simp [ofInt]
  rw [hoffset, ← excerpt_ofRead text candidate, ← dropTo_natCast, ← hdigits]
  rfl

/-- Line feeds and both quotes, in the template and in the candidate. -/
theorem message_lines_feeds :
    ∃ e, (ofPatterns (compile "x\nA".toList ["A".toList]) []).read "y\n'\"".toList =
        .error (.error e) ∧
      e.message.splitOn '\n' = ["Expected 'x\\n' at position 0 (offset 0), got 'y\\n'".toList,
        "  template: 'x\\nA'".toList, "  candidate at offset 0: 'y\\n\\'\"'".toList] := by
  have hcompile : compile "x\nA".toList ["A".toList] = ⟨[⟨"x\n".toList, 0⟩], [], ["A".toList]⟩ := by
    cbv
  have hread : (ofPatterns (compile "x\nA".toList ["A".toList]) []).read "y\n'\"".toList =
      .error (.error ⟨.badFormat ⟨"x\n".toList, "y\n".toList, 0, 0, false, false⟩,
        some (.ofRead "x\nA".toList "y\n'\"".toList)⟩) := by
    rw [hcompile]
    rfl
  obtain ⟨last, hlines, -, hlast⟩ := message_lines _ _ _ _ _ hread
  obtain ⟨offset, hoffset, rfl⟩ := hlast _ rfl
  obtain rfl : offset = 0 := (Int.ofNat_inj.1 hoffset).symm
  refine ⟨_, hread, hlines.trans ?_⟩
  cbv

end Reader

end Stencil
