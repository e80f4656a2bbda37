import Stencil.Definition.Load
import Stencil.Proofs.Alignment.Configured
import Stencil.Proofs.Format.Delimited

/-! # Expressions beyond a limit

A configuration that holds no objects is refused with a list of problems.  There is one exception: the
expression of a text format that goes beyond a limit of the compiler ends the check by itself.
-/
namespace Stencil

/-- Problems, or an expression that satisfies a predicate. -/
def Rejection.Reports (q : Regex.Error → Prop) : Rejection → Prop
  | .problems _ => True
  | .expression e => q e
  | .mistaken => False

theorem Rejection.Reports.mono {q q' : Regex.Error → Prop} (h : ∀ e, q e → q' e) {r : Rejection}
    (hr : r.Reports q) : r.Reports q' := by
  cases r with
  | problems ps => trivial
  | expression e => exact h e hr
  | mistaken => exact hr

section Rules
variable {α β : Type} {q : Regex.Error → Prop}

namespace Checked

theorem fail_failsBy (cause : Cause) : FailsBy (Rejection.Reports q) (fail cause : Checked α) :=
  .error trivial

theorem under_failsBy {c : Checked α} (h : FailsBy (Rejection.Reports q) c) (s : Step) :
    FailsBy (Rejection.Reports q) (c.under s) := by
  intro r hr
  obtain ⟨r', hr', rfl⟩ := mapError_eq_error_iff.1 hr
  cases r' with
  | problems ps => trivial
  | expression e => exact h _ hr'
  | mistaken => exact h _ hr'

theorem both_failsBy {a : Checked α} {b : Checked β} (ha : FailsBy (Rejection.Reports q) a)
    (hb : FailsBy (Rejection.Reports q) b) : FailsBy (Rejection.Reports q) (a.both b) := by
  unfold both
  split
  · exact .ok _
  · exact .error (hb _ rfl)
  · exact .error trivial
  · exact .error trivial
  · exact .error (hb _ rfl)
  · exact .error (ha _ rfl)

theorem field_failsBy {entries : List (Value × Value)} {name : Text} {default : α}
    {check : Value → Checked α}
    (h : ∀ v, Value.field? entries name = some v → FailsBy (Rejection.Reports q) (check v)) :
    FailsBy (Rejection.Reports q) (field entries name default check) := by
  unfold field
  split
  · exact .ok _
  · next v hv => exact under_failsBy (h v hv) _

theorem elim_failsBy {o : Option α} {cause : Cause} {f : α → Checked β}
    (hf : ∀ a, FailsBy (Rejection.Reports q) (f a)) :
    FailsBy (Rejection.Reports q) (o.elim (fail cause) f) := by
  cases o with
  | none => exact fail_failsBy _
  | some a => exact hf a

theorem known_failsBy (policy : Policy) (names : List Text) (entries : List (Value × Value)) :
    FailsBy (Rejection.Reports q) (known policy names entries) := by
  unfold known
  split
  · exact .ok _
  · exact .error trivial

end Checked

open Checked

namespace Scalar

theorem text_failsBy (v : Value) : FailsBy (Rejection.Reports q) (text v) := by
  unfold text
  split
  · exact .ok _
  · exact fail_failsBy _
  · exact elim_failsBy .ok
  · exact .ok _
  · exact fail_failsBy _

theorem readInteger_failsBy (t : Text) : FailsBy (Rejection.Reports q) (readInteger t) := by
  unfold readInteger
  dsimp only
  split
  · exact fail_failsBy _
  · exact .ite (fail_failsBy _) (.ite (fail_failsBy _) (.ok _))

theorem ofReal_failsBy (negative : Bool) (mantissa : Nat) (exponent : Int) :
    FailsBy (Rejection.Reports q) (ofReal negative mantissa exponent) :=
  .ite (fail_failsBy _) (.ite (.ok _) (fail_failsBy _))

theorem integer_failsBy {v : Value} (hv : v.Plain) : FailsBy (Rejection.Reports q) (integer v) := by
  unfold integer
  split
  · exact .ok _
  · exact .ok _
  · exact ofReal_failsBy _ _ _
  · exact fail_failsBy _
  · exact readInteger_failsBy _
  · exact fail_failsBy _
  · exact elim_failsBy readInteger_failsBy
  · exact absurd hv (Value.not_plain_object _)
  · exact fail_failsBy _

theorem readBool_failsBy (t : Text) : FailsBy (Rejection.Reports q) (readBool t) :=
  .ite (.ok _) (.ite (.ok _) (fail_failsBy _))

theorem boolOfInteger_failsBy (n : Int) : FailsBy (Rejection.Reports q) (boolOfInteger n) :=
  .ite (.ok _) (.ite (.ok _) (fail_failsBy _))

theorem bool_failsBy (v : Value) : FailsBy (Rejection.Reports q) (bool v) := by
  unfold bool
  split
  · exact .ok _
  · exact .ite (boolOfInteger_failsBy _) (fail_failsBy _)
  · split
    · exact boolOfInteger_failsBy _
    · exact fail_failsBy _
  · exact readBool_failsBy _
  · exact fail_failsBy _
  · exact elim_failsBy readBool_failsBy
  · exact fail_failsBy _

end Scalar

namespace Alignment

theorem kindOfValue_failsBy (v : Value) : FailsBy (Rejection.Reports q) (Kind.ofValue v) := by
  unfold Kind.ofValue
  split
  · exact elim_failsBy .ok
  · exact fail_failsBy _
  · exact .ok _
  · exact fail_failsBy _

theorem widthOfValue_failsBy {v : Value} (hv : v.Plain) :
    FailsBy (Rejection.Reports q) (widthOfValue v) :=
  .bind (Scalar.integer_failsBy hv) fun _ _ => .ite (fail_failsBy _) (.ok _)

theorem fillOfValue_failsBy (v : Value) : FailsBy (Rejection.Reports q) (fillOfValue v) := by
  refine .bind (Scalar.text_failsBy v) fun t _ => ?_
  split
  · exact .ok _
  · exact fail_failsBy _

theorem ofEntries_failsBy {entries : List (Value × Value)} (hplain : (Value.mapping entries).Plain) :
    FailsBy (Rejection.Reports q) (ofEntries entries) := by
  refine (both_failsBy ?_ (both_failsBy ?_ (both_failsBy ?_ (known_failsBy _ _ _)))).map
  · exact field_failsBy fun v _ => kindOfValue_failsBy v
  · exact field_failsBy fun v hv => widthOfValue_failsBy (hplain.of_field? hv)
  · exact field_failsBy fun v _ => fillOfValue_failsBy v

theorem ofValue_failsBy {v : Value} (hv : v.Plain) : FailsBy (Rejection.Reports q) (ofValue v) := by
  unfold ofValue
  split
  · exact ofEntries_failsBy hv
  · exact .ok _
  · exact fail_failsBy _

end Alignment
end Rules

open Checked

/-- An expression that is refused for a limit of the compiler, and so ends a check. -/
structure Regex.Error.IsLimit (e : Regex.Error) : Prop where
  refused : Regex.compile e.source = .error e
  limit : e.fault = .repeatTooLarge ∨ e.fault = .codeTooLarge

namespace Format

theorem expressionOfText_failsBy (t : Text) :
    FailsBy (Rejection.Reports fun e => e.source = t ∧ e.IsLimit) (expressionOfText t) := by
  unfold expressionOfText
  split
  · exact .ok _
  · next e he =>
    have hsource : e.source = t := by
      rw [Regex.compile, Regex.compileWith] at he
      split at he <;> cases he
      rfl
    have hrefused : Regex.compile e.source = .error e := by rwa [hsource]
    split
    · next hfault => exact .error ⟨hsource, hrefused, .inl hfault⟩
    · next hfault => exact .error ⟨hsource, hrefused, .inr hfault⟩
    · exact fail_failsBy _

/-- The expression of a text format that is given by entries is beyond a limit. -/
def Overruns (entries : List (Value × Value)) (e : Regex.Error) : Prop :=
  Value.field? entries "kind".toList = some (.text "string".toList) ∧
    (∃ v, Value.field? entries "regex".toList = some v ∧ Scalar.text v = .ok e.source) ∧ e.IsLimit

variable {entries : List (Value × Value)}

theorem kindOfEntries_failsBy {tag : Tag} (hplain : (Value.mapping entries).Plain)
    (htag : Value.field? entries "kind".toList = some (.text tag.name)) :
    FailsBy (Rejection.Reports (Overruns entries)) (kindOfEntries entries tag) := by
  cases tag with
  | integer => exact (field_failsBy fun v hv => (Scalar.integer_failsBy (hplain.of_field? hv)).map).map
  | real =>
    refine (both_failsBy ?_ ?_).map
    · exact field_failsBy fun v hv => (Scalar.integer_failsBy (hplain.of_field? hv)).map
    · exact field_failsBy fun v _ => Scalar.bool_failsBy v
  | text =>
    apply FailsBy.map
    split
    · -- the default expression compiles
      rw [expressionOfText, Kind.readsTrees_run.compile_eq]
      exact .ok _
    · next v hv =>
      refine under_failsBy (.bind (Scalar.text_failsBy v) fun t ht => ?_) _
      refine (expressionOfText_failsBy t).mono fun r => Rejection.Reports.mono ?_
      rintro e ⟨rfl, hlimit⟩
      exact ⟨htag, ⟨v, hv, ht⟩, hlimit⟩

theorem checkFill_failsBy {q : Regex.Error → Prop} (f : Format) :
    FailsBy (Rejection.Reports q) (checkFill f) := by
  unfold checkFill
  split
  · exact .ok _
  · exact fail_failsBy _

theorem ofEntries_failsBy {tag : Tag} (hplain : (Value.mapping entries).Plain)
    (htag : Value.field? entries "kind".toList = some (.text tag.name)) :
    FailsBy (Rejection.Reports (Overruns entries)) (ofEntries tag entries) := by
  have hgiven (v : Value) : FailsBy (Rejection.Reports (Overruns entries)) (checkTag tag v) := by
    unfold checkTag
    split
    · exact .ite (.ok _) (fail_failsBy _)
    · exact fail_failsBy _
    · exact fail_failsBy _
  refine .bind (both_failsBy ?_ (both_failsBy ?_ (both_failsBy ?_ (known_failsBy _ _ _)))) fun _ _ =>
    checkFill_failsBy _
  · exact field_failsBy fun v hv => Alignment.ofValue_failsBy (hplain.of_field? hv)
  · exact field_failsBy fun v _ => hgiven v
  · exact kindOfEntries_failsBy hplain htag

theorem ofValue_failsBy {v : Value} (hv : v.Plain) :
    FailsBy (Rejection.Reports fun e => ∃ entries, v = .mapping entries ∧ Overruns entries e)
      (ofValue v) := by
  unfold ofValue
  split
  · next entries =>
    split
    · exact fail_failsBy _
    · next w hw =>
      dsimp only
      split
      · next tag htag =>
        have hgiven : Value.field? entries "kind".toList = some (.text tag.name) := by
          split at htag
          · rw [hw, name_of_ofName? htag]
          · cases htag
        refine under_failsBy ((ofEntries_failsBy hv hgiven).mono fun r => Rejection.Reports.mono ?_) _
        intro e he
        exact ⟨entries, rfl, he⟩
      · exact fail_failsBy _
  · exact .ok _
  all_goals exact fail_failsBy _

end Format

namespace Definition

/-- The expression of one of the targets that are configured by entries is beyond a limit. -/
def Overruns (entries : List (Value × Value)) (e : Regex.Error) : Prop :=
  ∃ targets name fields, Value.field? entries "targets".toList = some (.mapping targets) ∧
    (name, .mapping fields) ∈ targets ∧ Format.Overruns fields e

end Definition
end Stencil
