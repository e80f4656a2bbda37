import Stencil.Format

/-! # Problems of a configuration

A configuration is checked field by field, and everything that is wrong with it is reported: each
problem is a cause and the place where it was found.  Two things end the check at once: an expression
that goes beyond a limit, and the text of an enumeration's member where an integer is compared.
-/
namespace Stencil

inductive Step
  | name (t : Text)
  | index (n : Int)
deriving DecidableEq, Repr

def Step.ofKey : Value → Step
  | .text t => .name t
  | .garbled g => .name g.marked
  | .bool b => .index (if b then 1 else 0)
  | .int n => if -Int.pow 2 63 ≤ n ∧ n < Int.pow 2 63 then .index n else .name (Value.int n).quoted
  | v => .name v.quoted

/-- How a class of records is set up: whether its records stay as they are made, and whether a
configuration of one may hold nothing but its fields. -/
structure Policy where
  frozen : Bool
  closed : Bool
deriving DecidableEq, Repr

inductive Cause
  | missing
  | unexpected
  | keyNotText
  | notText
  | notUnicode
  | notMapping
  | notModel (name : Text)
  | noFields
  | notInteger
  | unreadableInteger
  | fractionalInteger
  | hugeInteger
  | notFinite
  | negative
  | notBool
  | unreadableBool
  | notAlignmentKind
  | otherTag (expected : Text)
  | unknownTag (tag : Text)
  | noTag
  | fillLength (fill : Text)
  | badExpression (e : Regex.Error)
  | fillInValue (fill : Char) (kind : Format.Kind) (fault : Format.FillFault)
  | frozen
deriving DecidableEq, Repr

structure Problem where
  place : List Step
  cause : Cause
deriving DecidableEq, Repr

namespace Cause

def label : Cause → Text
  | missing => "missing".toList
  | unexpected => "extra_forbidden".toList
  | keyNotText => "invalid_key".toList
  | notText => "string_type".toList
  | notUnicode => "string_unicode".toList
  | notMapping => "dict_type".toList
  | notModel _ => "model_type".toList
  | noFields => "model_attributes_type".toList
  | notInteger => "int_type".toList
  | unreadableInteger => "int_parsing".toList
  | fractionalInteger => "int_from_float".toList
  | hugeInteger => "int_parsing_size".toList
  | notFinite => "finite_number".toList
  | negative => "greater_than_equal".toList
  | notBool => "bool_type".toList
  | unreadableBool => "bool_parsing".toList
  | notAlignmentKind => "enum".toList
  | otherTag _ => "literal_error".toList
  | unknownTag _ => "union_tag_invalid".toList
  | noTag => "union_tag_not_found".toList
  | fillLength _ => "value_error".toList
  | badExpression _ => "value_error".toList
  | fillInValue .. => "value_error".toList
  | frozen => "frozen_instance".toList

/-- An expression that is malformed is quoted; a limit or a contradiction is not. -/
def expressionMessage (e : Regex.Error) : Text :=
  match e.fault with
  | .malformed .. => "invalid regex ".toList ++ e.source.quote ++ ": ".toList ++ e.message
  | _ => e.message

def message : Cause → Text
  | missing => "Field required".toList
  | unexpected => "Extra inputs are not permitted".toList
  | keyNotText => "Keys should be strings".toList
  | notText => "Input should be a valid string".toList
  | notUnicode => "Input should be a valid string, unable to parse raw data as a unicode string".toList
  | notMapping => "Input should be a valid dictionary".toList
  | notModel name => "Input should be a valid dictionary or instance of ".toList ++ name
  | noFields => "Input should be a valid dictionary or object to extract fields from".toList
  | notInteger => "Input should be a valid integer".toList
  | unreadableInteger =>
    "Input should be a valid integer, unable to parse string as an integer".toList
  | fractionalInteger =>
    "Input should be a valid integer, got a number with a fractional part".toList
  | hugeInteger => "Unable to parse input string as an integer, exceeded maximum size".toList
  | notFinite => "Input should be a finite number".toList
  | negative => "Input should be greater than or equal to 0".toList
  | notBool => "Input should be a valid boolean".toList
  | unreadableBool => "Input should be a valid boolean, unable to interpret input".toList
  | notAlignmentKind => "Input should be 'none', 'left', 'right' or 'center'".toList
  | otherTag expected => "Input should be ".toList ++ expected.quote
  | unknownTag tag =>
    "Input tag '".toList ++ tag ++
      ("' found using 'kind' does not match any of the expected tags: " ++
        "'int', 'number', 'string'").toList
  | noTag => "Unable to extract tag using discriminator 'kind'".toList
  | fillLength fill =>
    "Value error, fill must be a single character, got ".toList ++ fill.quote
  | badExpression e => "Value error, ".toList ++ expressionMessage e
  | fillInValue fill kind fault => "Value error, ".toList ++ fault.message fill kind
  | frozen => "Instance is frozen".toList

end Cause

/-- Why a configuration is refused: its problems, an expression beyond a limit, or a member of an
enumeration that was taken for an integer. -/
inductive Rejection
  | problems (ps : List Problem)
  | expression (e : Regex.Error)
  | mistaken
deriving DecidableEq, Repr

abbrev Checked (α : Type) := Except Rejection α

namespace Checked

def fail {α : Type} (cause : Cause) : Checked α := .error (.problems [⟨[], cause⟩])

/-- The same outcome, found one step further down. -/
def under {α : Type} (s : Step) (c : Checked α) : Checked α :=
  c.mapError fun
    | .problems ps => .problems (ps.map fun p => { p with place := s :: p.place })
    | r => r

/-- Both outcomes; the problems of both are reported. -/
def both {α β : Type} (a : Checked α) (b : Checked β) : Checked (α × β) :=
  match a, b with
  | .ok x, .ok y => .ok (x, y)
  | .ok _, .error r => .error r
  | .error (.problems ps), .ok _ => .error (.problems ps)
  | .error (.problems ps), .error (.problems qs) => .error (.problems (ps ++ qs))
  | .error (.problems _), .error r => .error r
  | .error r, _ => .error r

def all {α : Type} : List (Checked α) → Checked (List α)
  | [] => .ok []
  | c :: rest => (both c (all rest)).map fun (x, xs) => x :: xs

def field {α : Type} (entries : List (Value × Value)) (name : Text) (default : α)
    (check : Value → Checked α) : Checked α :=
  match Value.field? entries name with
  | none => .ok default
  | some v => (check v).under (.name name)

/-- What is wrong with an entry that is no field. -/
def surplus (names : List Text) (entry : Value × Value) : Option Problem :=
  match entry.1 with
  | .text t => if t ∈ names then none else some ⟨[.name t], .unexpected⟩
  | k => some ⟨[.ofKey k], .keyNotText⟩

/-- Whether a mapping holds nothing but fields, if this matters. -/
def known (policy : Policy) (names : List Text) (entries : List (Value × Value)) : Checked Unit :=
  match if policy.closed then entries.filterMap (surplus names) else [] with
  | [] => .ok ()
  | ps => .error (.problems ps)

end Checked
end Stencil
