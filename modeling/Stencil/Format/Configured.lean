import Stencil.Scalar

/-! # Configured formats

An alignment and a format are given by mappings.  Fields may be left out; numbers out of range are
moved to the nearest bound; entries of other names are ignored.
-/
namespace Stencil

namespace Alignment

def Kind.ofTag? (t : Text) : Option Kind := [Kind.none, left, right, center].find? (·.tag == t)

def Kind.ofValue : Value → Checked Kind
  | .text t => (Kind.ofTag? t).elim (Checked.fail .notAlignmentKind) .ok
  | .garbled _ => Checked.fail .notUnicode
  | .object (.alignmentKind k) => .ok k
  | _ => Checked.fail .notAlignmentKind

def widthOfValue (v : Value) : Checked Nat := do
  let n ← Scalar.integer v
  if n < 0 then Checked.fail .negative else return n.toNat

def fillOfValue (v : Value) : Checked Char := do
  match ← Scalar.text v with
  | [c] => return c
  | t => Checked.fail (.fillLength t)

def policy : Policy := ⟨true, false⟩

def ofEntries (entries : List (Value × Value)) : Checked Alignment :=
  let kind := Checked.field entries "kind".toList default.kind Kind.ofValue
  let width := Checked.field entries "width".toList default.width widthOfValue
  let fill := Checked.field entries "fill".toList default.fill fillOfValue
  let known := Checked.known policy ["kind".toList, "width".toList, "fill".toList] entries
  (kind.both (width.both (fill.both known))).map fun (kind, width, fill, _) => ⟨kind, width, fill⟩

def ofValue : Value → Checked Alignment
  | .mapping entries => ofEntries entries
  | .object (.alignment a) => .ok a
  | _ => Checked.fail (.notModel "Alignment".toList)

end Alignment

namespace Format

/-- The kinds of formats, without their settings. -/
inductive Tag
  | integer
  | real
  | text
deriving DecidableEq, Repr

namespace Tag

def name : Tag → Text
  | integer => "int".toList
  | real => "number".toList
  | text => "string".toList

/-- The names of the fields of a format. -/
def fields : Tag → List Text
  | integer => ["alignment", "kind", "base"].map String.toList
  | real => ["alignment", "kind", "digits", "exponential_notation"].map String.toList
  | text => ["alignment", "kind", "regex"].map String.toList

def ofName? (t : Text) : Option Tag := [integer, real, text].find? (·.name == t)

end Tag

/-- The nearest number between two bounds. -/
def clamp (low high : Nat) (n : Int) : Nat := (min (max n low) high).toNat

def clamped (low high : Nat) (v : Value) : Checked Nat := (Scalar.integer v).map (clamp low high)

/-- An expression of its own, which only has to be one. -/
def expressionOfText (t : Text) : Checked Regex :=
  match Regex.compile t with
  | .ok r => .ok r
  | .error e =>
    match e.fault with
    | .repeatTooLarge => .error (.expression e)
    | .codeTooLarge => .error (.expression e)
    | _ => Checked.fail (.badExpression e)

/-- Runs of characters that are no blanks. -/
def defaultExpression : Text := "\\S*".toList

def kindOfEntries (entries : List (Value × Value)) : Tag → Checked Kind
  | .integer => (Checked.field entries "base".toList 10 (clamped 2 36)).map .integer
  | .real =>
    let digits := Checked.field entries "digits".toList 2 (clamped 0 100)
    let exponential := Checked.field entries "exponential_notation".toList false Scalar.bool
    (digits.both exponential).map fun (digits, exponential) => .real digits exponential
  | .text =>
    (match Value.field? entries "regex".toList with
      | none => expressionOfText defaultExpression
      | some v => Checked.under (.name "regex".toList) ((Scalar.text v).bind expressionOfText)).map
        .text

/-- Check the word that selects the kind, if it is given. -/
def checkTag (tag : Tag) : Value → Checked Unit
  | .text t => if t = tag.name then .ok () else Checked.fail (.otherTag tag.name)
  | .garbled _ => Checked.fail .notUnicode
  | _ => Checked.fail (.otherTag tag.name)

/-- Check that the fill suits the values. -/
def checkFill (f : Format) : Checked Format :=
  match f.fillFault? with
  | none => .ok f
  | some fault => Checked.fail (.fillInValue f.alignment.fill f.kind fault)

def policy : Policy := ⟨true, false⟩

/-- A format of a known kind. -/
def ofEntries (tag : Tag) (entries : List (Value × Value)) : Checked Format := do
  let alignment := Checked.field entries "alignment".toList Alignment.default Alignment.ofValue
  let given := Checked.field entries "kind".toList () (checkTag tag)
  let kind := kindOfEntries entries tag
  let known := Checked.known policy tag.fields entries
  let (alignment, _, kind, _) ← alignment.both (given.both (kind.both known))
  checkFill ⟨alignment, kind⟩

/-- A format whose kind is selected by its own mapping. -/
def ofValue : Value → Checked Format
  | .mapping entries =>
    match Value.field? entries "kind".toList with
    | none => Checked.fail .noTag
    | some v =>
      let tag := match v with
        | .text t => Tag.ofName? t
        | _ => none
      match tag with
      | some tag => (ofEntries tag entries).under (.name tag.name)
      | none => Checked.fail (.unknownTag v.plain)
  | .object (.format f) => .ok f
  | .object (.alignment a) => Checked.fail (.unknownTag a.kind.member)
  | .object _ => Checked.fail .noTag
  | .date _ => Checked.fail .noTag
  | .moment _ => Checked.fail .noTag
  | _ => Checked.fail .noFields

end Format
end Stencil
