import Stencil.Proofs.Form.RoundTrip
import Stencil.Proofs.Format.Captured
import Stencil.Proofs.Format.Padded
import Stencil.Proofs.Template.Failure

/-! # How reading a form fails

If what the patterns of its formats capture is always read, a form refuses a candidate only because of
the template: the candidate deviates from it or has several texts for a target.
-/
namespace Stencil

namespace Form
open Template Reader
open Format (exists_pattern_of_numeric)

variable {template : Text} {formats : List (Text × Format)}

/-- The candidate deviates from the template, or a target has several texts in it. -/
inductive Fault.Mismatch : Fault → Prop
  | read {f : ReadFailure} (h : f.Mismatch) : Mismatch (.read f)

/-- Captured texts that are read are all parsed. -/
theorem exists_parse {captured : List (Option Text)}
    (h : ∀ (i : Nat) (d : Text × Format) (w : Text), formats[i]? = some d →
      captured[i]? = some (some w) → ∃ v, d.2.read w = .ok v) :
    ∃ values, parse formats captured = .ok values := by
  induction formats generalizing captured with
  | nil => exact ⟨[], by simp [parse]⟩
  | cons d formats ih =>
    cases captured with
    | nil => exact ⟨[], by simp [parse]⟩
    | cons w captured =>
      obtain ⟨values, hvalues⟩ := ih fun i e t he ht => h (i + 1) e t he ht
      cases w with
      | none => exact ⟨_, parse_cons_eq_ok_iff.2 ⟨none, values, rfl, hvalues, rfl⟩⟩
      | some t =>
        obtain ⟨v, hv⟩ := h 0 d t rfl rfl
        exact ⟨_, parse_cons_eq_ok_iff.2 ⟨some v, values, map_eq_ok_iff.2 ⟨v, hv, rfl⟩, hvalues, rfl⟩⟩

section Built
variable {ps : List (Option Pattern)}

/-- What a form reads for a target is captured by the pattern of its format. -/
theorem exists_read (hps : patterns (distinct formats) = .ok ps)
    (hcaptured : ∀ d ∈ distinct formats, d.2.ReadsCaptured) {text : Text}
    (hlength : text.length ≤ Numeral.digitLimit) {captured : List (Option Text)}
    (hread : (ofPatterns (blank template formats) ps).read text = .ok captured) {i : Nat}
    {d : Text × Format} {w : Text} (hd : (distinct formats)[i]? = some d)
    (hw : captured[i]? = some (some w)) : ∃ v, d.2.read w = .ok v := by
  obtain ⟨hle, p, behind, hp, hmatched⟩ := exists_matched hread hw
  obtain ⟨r, hr, hpi⟩ := getElem?_patterns hps hd
  have hi : i < (blank template formats).targets.length :=
    length_targets_blank template formats ▸ (List.getElem?_eq_some_iff.1 hd).1
  rw [getSigned_ofPatterns hi, hpi, Option.join_some, Option.some.injEq, Option.some.injEq] at hp
  subst hp
  have hmatch : r.matchLength (w ++ behind) = some w.length :=
    (r.toPattern.eq_append_of_matched hmatched).1
  obtain ⟨v, hv⟩ := hcaptured d (List.mem_of_getElem? hd) r _ _ hr hmatch (hle.trans hlength)
  rw [List.take_left] at hv
  exact ⟨v, hv⟩

theorem mismatch_of_read_eq_error (hps : patterns (distinct formats) = .ok ps)
    (hcaptured : ∀ d ∈ distinct formats, d.2.ReadsCaptured) {text : Text}
    (hlength : text.length ≤ Numeral.digitLimit) {fault : Fault}
    (h : read ⟨distinct formats, .ofPatterns (blank template formats) ps⟩ text = .error fault) :
    fault.Mismatch := by
  cases hread : (ofPatterns (blank template formats) ps).read text with
  | error failure =>
    have htargets : ∀ b ∈ (blank template formats).blocks,
        getSigned? (ofPatterns (blank template formats) ps).patterns b.target ≠ none :=
      fun b hb => getSigned_ofPatterns_ne_none hb
    rw [read, hread] at h
    obtain rfl : Fault.read failure = fault := Except.error.inj h
    exact .read (Reader.mismatch_of_read_eq_error (compile_source _ _) htargets hread)
  | ok captured =>
    obtain ⟨values, hvalues⟩ := exists_parse fun i d w hd hw =>
      exists_read hps hcaptured hlength hread (i := i) (d := d) (w := w) hd hw
    rw [read, hread] at h
    change (parse (distinct formats) captured).mapError Fault.conversion = .error fault at h
    rw [hvalues] at h
    cases h

end Built

/-- Forms of numeric formats are built.  What their formats capture is always read exactly if the formats
are robust, and then a candidate that is not too long is refused only because of the template. -/
theorem read_fails_by_mismatch (template : Text) (formats : List (Text × Format))
    (hformats : ∀ d ∈ distinct formats, d.2.Accepted ∧ d.2.Numeric) :
    ∃ form, build template formats = .ok form ∧
      (∀ d ∈ distinct formats, d.2.ReadsCaptured ↔ d.2.Robust) ∧
        ((∀ d ∈ distinct formats, d.2.Robust) → ∀ text, text.length ≤ Numeral.digitLimit →
          ∀ fault, form.read text = .error fault → fault.Mismatch) := by
  obtain ⟨ps, hps⟩ := exists_patterns fun d hd =>
    exists_pattern_of_numeric (hformats d hd).1 (hformats d hd).2
  refine ⟨_, build_eq_ok_iff.2 ⟨ps, hps, rfl⟩,
    fun d hd => Format.readsCaptured_iff (hformats d hd).1, fun hrobust text hlength fault h => ?_⟩
  exact mismatch_of_read_eq_error hps
    (fun d hd => (Format.readsCaptured_iff (hformats d hd).1).2 (hrobust d hd)) hlength h

/-- Integers and numbers with exponents, with zeros in front of them. -/
def zeroFilled : List (Text × Format) :=
  [("N".toList, ⟨⟨.right, 6, '0'⟩, .integer 10⟩), ("X".toList, ⟨⟨.right, 9, '0'⟩, .real 2 true⟩)]

/-- A candidate that starts with other text than the template. -/
theorem read_fails_by_mismatch_zeros :
    (∀ d ∈ distinct zeroFilled, d.2.Accepted ∧ d.2.Numeric) ∧
      ∃ form, build "n=N;x=X".toList zeroFilled = .ok form ∧
        (∀ d ∈ distinct zeroFilled, d.2.Robust ∧ d.2.ReadsCaptured) ∧
          "m=7".toList.length ≤ Numeral.digitLimit ∧
            ∃ fault, form.read "m=7".toList = .error fault ∧ fault.Mismatch := by
  have hdistinct : distinct zeroFilled = zeroFilled := by rfl
  have hformats : ∀ d ∈ distinct zeroFilled, d.2.Accepted ∧ d.2.Numeric := by
    rw [hdistinct, zeroFilled]
    simp only [List.forall_mem_cons]
    exact ⟨⟨Format.accepted_iff.2 ⟨⟨by decide, by decide⟩, by decide +kernel⟩, trivial⟩,
      ⟨Format.accepted_iff.2 ⟨Nat.le_of_ble_eq_true rfl, by decide +kernel⟩, trivial⟩, by simp⟩
  have hrobust : ∀ d ∈ distinct zeroFilled, d.2.Robust := by
    rw [hdistinct, zeroFilled]
    simp only [List.forall_mem_cons]
    exact ⟨trivial, fun _ _ => Nat.zero_lt_two, by simp⟩
  have hlength : "m=7".toList.length ≤ Numeral.digitLimit := by decide
  obtain ⟨form, hbuild, hcaptured, hread⟩ :=
    read_fails_by_mismatch "n=N;x=X".toList zeroFilled hformats
  refine ⟨hformats, form, hbuild, fun d hd => ⟨hrobust d hd, (hcaptured d hd).2 (hrobust d hd)⟩,
    hlength, ?_⟩
  have hfault : ∃ fault, form.read "m=7".toList = .error fault := by
    obtain ⟨ps, -, rfl⟩ := build_eq_ok_iff.1 hbuild
    have hblank : blank "n=N;x=X".toList zeroFilled =
        ⟨[⟨"n=".toList, 0⟩, ⟨";x=".toList, 1⟩], [], ["N".toList, "X".toList]⟩ := by cbv
    rw [hblank]
    exact ⟨_, rfl⟩
  obtain ⟨fault, hfault⟩ := hfault
  exact ⟨fault, hfault, hread hrobust _ hlength fault hfault⟩

theorem read_eq_error_of_parse {form : Form} {text : Text} {captured : List (Option Text)}
    {fault : Conversion.Fault} (hread : form.reader.read text = .ok captured)
    (hparse : parse form.formats captured = .error fault) :
    form.read text = .error (.conversion fault) := by
  rw [read, hread]
  change (parse form.formats captured).mapError Fault.conversion = _
  rw [hparse]
  rfl

/-- Numbers without decimals and with exponents, with zeros in front of them. -/
def digitless : Format := ⟨⟨.right, 6, '0'⟩, .real 0 true⟩

/-- A zero that the pattern captures is taken for padding, and what is left of it is not read. -/
theorem mantissa_lost :
    digitless.Accepted ∧ ∃ form, build "x=A".toList [("A".toList, digitless)] = .ok form ∧
      form.read "x=0e+00".toList = .error (.conversion (.notAReal "e+00".toList)) := by
  have haccepted : digitless.Accepted :=
    Format.accepted_iff.2 ⟨Nat.zero_le _, by decide +kernel⟩
  have hfault : digitless.read "0e+00".toList = .error (.notAReal "e+00".toList) := by
    have hunpad : digitless.unpad "0e+00".toList = "e+00".toList := by decide +kernel
    have hunread : Binary64.read "e+00".toList = none := by decide +kernel
    rw [Format.read, hunpad]
    change (Conversion.readReal "e+00".toList).map Value.float = _
    rw [Conversion.readReal, hunread]
    rfl
  obtain ⟨r, hpattern, hmatched⟩ : ∃ r, digitless.pattern = .ok r ∧
      r.toPattern.matched "0e+00".toList = some "0e+00".toList :=
    ⟨_, Format.pattern_eq (Format.Kind.readsTrees_real true (Nat.zero_le 100)), by decide +kernel⟩
  have hblank : blank "x=A".toList [("A".toList, digitless)] =
      ⟨[⟨"x=".toList, 0⟩], [], ["A".toList]⟩ := by cbv
  refine ⟨haccepted, _, build_eq_ok_iff.2 ⟨_, bind_eq_ok_iff.2 ⟨r, hpattern, rfl⟩, rfl⟩, ?_⟩
  refine @read_eq_error_of_parse _ _ [some "0e+00".toList] _ ?_ ?_
  · rw [hblank]
    have htaken : taken [some r.toPattern] 0 ("0e+00".toList ++ []) = some "0e+00".toList := hmatched
    refine read_eq_ok_iff.2 ⟨["0e+00".toList], ?_, rfl, ?_⟩
    · exact .cons (b := ⟨"x=".toList, 0⟩) htaken (.nil _)
    · rintro (_ | i) v hv
      · obtain rfl := Option.some.inj hv
        rfl
      · simp at hv
  · change parse [("A".toList, digitless)] _ = _
    rw [parse, hfault]
    rfl

end Form
end Stencil
