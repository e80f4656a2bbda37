import Stencil.Problem

/-! # Scalars of a configuration

A field that wants an integer or a truth value also takes a value of another type that plainly means
one: the text of an integer, a real number without a fraction, a word such as `yes`.
-/
namespace Stencil.Scalar

def decode (bs : List UInt8) : Option Text :=
  (String.fromUTF8? ⟨bs.toArray⟩).map String.toList

def text : Value → Checked Text
  | .text t => .ok t
  | .garbled _ => Checked.fail .notUnicode
  | .bytes bs => (decode bs).elim (Checked.fail .notUnicode) .ok
  | .object (.alignmentKind k) => .ok k.tag
  | _ => Checked.fail .notText

/-- The digits of an integer without the zeros in front.  Among these zeros underscores may stand
anywhere; the last zero is kept if nothing or a point follows it. -/
def dropZeros : Text → Option Text
  | [] => none
  | '0' :: rest =>
    let zeros := rest.takeWhile fun c => c == '0' || c == '_'
    match rest.dropWhile fun c => c == '0' || c == '_' with
    | [] => some [(('0' :: zeros).getLast?).getD '0']
    | c :: tail =>
      if '1' ≤ c ∧ c ≤ '9' then some (c :: tail)
      else if c = '.' then some ((('0' :: zeros).getLast?).getD '0' :: c :: tail)
      else none
  | c :: rest => if '1' ≤ c ∧ c ≤ '9' then some (c :: rest) else none

/-- The text before a point, if only zeros follow it. -/
def dropFraction (t : Text) : Text :=
  match t.dropWhile (· ≠ '.') with
  | '.' :: zeros => if zeros.all (· == '0') then t.takeWhile (· ≠ '.') else t
  | _ => t

/-- Whether every underscore stands between two other characters. -/
def underscoresApart (t : Text) : Bool :=
  t.head? != some '_' && t.getLast? != some '_' && !"__".toList.isInfixOf_internal t

/-- The integer of a text: a sign, digits with single underscores among them, and a point with
nothing but zeros behind it. -/
def readInteger (t : Text) : Checked Int :=
  let (negative, rest) := Numeral.takeSign (Text.trim Text.isNumberBlank t)
  match (dropZeros rest).map dropFraction with
  | none => Checked.fail .unreadableInteger
  | some ds =>
    let digits := ds.filter (· ≠ '_')
    if digits.isEmpty || !underscoresApart ds || !digits.all Char.isDigit then
      Checked.fail .unreadableInteger
    else if Numeral.digitLimit < digits.length then Checked.fail .hugeInteger
    else
      let n := Numeral.positional 10 (digits.filterMap Numeral.digitValue)
      .ok (if negative then -n else n)

/-- The integer that a finite real number is, if it lies strictly between the bounds of 64 bits. -/
def ofReal (negative : Bool) (mantissa : Nat) (exponent : Int) : Checked Int :=
  let (n, exact) := Binary64.truncate negative mantissa exponent
  if !exact then Checked.fail .fractionalInteger
  else if n.natAbs < Nat.pow 2 63 then .ok n
  else Checked.fail .hugeInteger

def integer : Value → Checked Int
  | .bool b => .ok (if b then 1 else 0)
  | .int n => .ok n
  | .float (.finite s m e) => ofReal s m e
  | .float _ => Checked.fail .notFinite
  | .text t => readInteger t
  | .garbled _ => Checked.fail .notUnicode
  | .bytes bs => (decode bs).elim (Checked.fail .unreadableInteger) readInteger
  | .object (.alignmentKind _) => .error .mistaken
  | _ => Checked.fail .notInteger

def trueWords : List Text := ["1", "on", "t", "true", "y", "yes"].map String.toList

def falseWords : List Text := ["0", "off", "f", "false", "n", "no"].map String.toList

def readBool (t : Text) : Checked Bool :=
  let word := t.map Text.asciiLower
  if trueWords.contains word then .ok true
  else if falseWords.contains word then .ok false
  else Checked.fail .unreadableBool

def boolOfInteger (n : Int) : Checked Bool :=
  if n = 0 then .ok false else if n = 1 then .ok true else Checked.fail .unreadableBool

/-- A truth value.  An integer beyond 64 bits and a real number that is no such integer are none. -/
def bool : Value → Checked Bool
  | .bool b => .ok b
  | .int n =>
    if -Int.pow 2 63 ≤ n ∧ n < Int.pow 2 63 then boolOfInteger n else Checked.fail .notBool
  | .float (.finite s m e) =>
    match ofReal s m e with
    | .ok n => boolOfInteger n
    | .error _ => Checked.fail .notBool
  | .text t => readBool t
  | .garbled _ => Checked.fail .notUnicode
  | .bytes bs => (decode bs).elim (Checked.fail .unreadableBool) readBool
  | _ => Checked.fail .notBool

end Stencil.Scalar
