import Stencil.Conversion

/-! # Formats

A format writes a value as aligned text and reads it back: an integer in some base, a real number
with a fixed number of decimals, or any text that an expression describes.  An alignment suits a
format if its fill can neither start nor end a value where it would be taken off again.
-/
namespace Stencil

namespace Format.Kind

/-- A point and the decimals behind it, if there are any. -/
def fractionExpression (digits : Nat) : Text :=
  if digits = 0 then []
  else "\\.\\d\x7b".toList ++ Text.ofNat digits ++ ['\x7d']

def expression : Kind → Text
  | integer base =>
    let ds := Numeral.alphabet.take base
    "-?[".toList ++ ds ++ ds.map Text.asciiUpper ++ "]+".toList
  | real digits false => "-?\\d+".toList ++ fractionExpression digits
  | real digits true => "-?\\d".toList ++ fractionExpression digits ++ "e[+-]\\d+".toList
  | text regex => regex.source

/-- Whether a text is an unaligned value. -/
def describes (k : Kind) (t : Text) : Bool :=
  (Regex.compile k.expression).toOption.any (·.matchesAll t)

/-- Whether the given text, a single character as a rule, can start a value that is told apart from
its padding.  A zero starts no integer but zero itself, which survives. -/
def mayStart (t : Text) : Kind → Bool
  | integer base => t = ['-'] || (t ≠ ['0'] && (integer base).describes t)
  | real .. => t = ['-'] || t.isInfixOf_internal "123456789".toList
  | text regex => (text regex).describes t

def mayEnd (t : Text) : Kind → Bool
  | real .. => t.isInfixOf_internal "0123456789".toList
  | k => k.describes t

def write (v : Value) : Kind → Except Conversion.Fault Text
  | integer base => do
    let n ← Conversion.toInteger v
    (Numeral.write base n).mapError .unwritable
  | real digits exponential => do
    let x ← Conversion.toReal v
    return if exponential then x.toExponential digits else x.toFixed digits
  | text _ => Conversion.toPlain v

def read (t : Text) : Kind → Except Conversion.Fault Value
  | integer base => (Conversion.readInteger base t).map .int
  | real .. => (Conversion.readReal t).map .float
  | text _ => .ok (.text t)

end Format.Kind

namespace Format

/-- The side of its values on which a fill would be taken for padding. -/
inductive FillFault
  | atEnd
  | atStart
deriving DecidableEq, Repr

/-- What is wrong with the fill, if anything; the end is looked at first. -/
def fillFault? (f : Format) : Option FillFault :=
  if f.alignment.kind.padsEnd && f.kind.mayEnd [f.alignment.fill] then some .atEnd
  else if f.alignment.kind.padsStart && f.kind.mayStart [f.alignment.fill] then some .atStart
  else none

def FillFault.message (fill : Char) (k : Kind) (fault : FillFault) : Text :=
  "fill ".toList ++ Text.quote [fill] ++
    (match fault with
      | atEnd => " can end a ".toList
      | atStart => " can start a ".toList) ++
    k.title ++ " value and would be stripped from it".toList

inductive WriteFault
  | conversion (f : Conversion.Fault)
  | alignment (f : Alignment.Fault)
deriving DecidableEq, Repr

def WriteFault.message : WriteFault → Text
  | conversion f => f.message
  | alignment f => f.message

def write (f : Format) (v : Value) : Except WriteFault Text := do
  let t ← (f.kind.write v).mapError .conversion
  (f.alignment.pad t).mapError .alignment

/-- An aligned text without its padding.  If nothing but fill was there and no value is empty, the
last character is the value. -/
def unpad (f : Format) (t : Text) : Text :=
  let stripped := f.alignment.unpad t
  if stripped = [] ∧ f.kind.describes [] = false then t.drop (t.length - 1) else stripped

def read (f : Format) (t : Text) : Except Conversion.Fault Value := f.kind.read (f.unpad t)

/-- The expression that aligned values are found with. -/
def pattern (f : Format) : Except Regex.Error Regex :=
  Regex.compile (f.alignment.around f.kind.expression)

end Format
end Stencil
