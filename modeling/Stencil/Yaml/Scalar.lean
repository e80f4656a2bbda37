import Stencil.Text.Base64
import Stencil.Unicode.LetterCase
import Stencil.Yaml.Tag

/-! # The values of scalars

A scalar with a tag that does not suit it is a fault of its own, other than a malformed document.
-/
namespace Stencil.Yaml

/-- The sign of a number and the text behind it.  A number must not be empty. -/
def signOf : Text → Except Fault (Bool × Text)
  | [] => .error .noNumber
  | c :: rest =>
    if c = '-' then .ok (true, rest)
    else if c = '+' then .ok (false, rest)
    else .ok (false, c :: rest)

def readInteger (base : Nat) (t : Text) : Except Fault Int :=
  (Conversion.readInteger base t).mapError .number

def readReal (t : Text) : Except Fault Binary64 := (Conversion.readReal t).mapError .number

/-- An unsigned integer: binary, hexadecimal, octal, sexagesimal or decimal. -/
def magnitudeOf (t : Text) : Except Fault Int :=
  if t = ['0'] then .ok 0
  else if "0b".toList.isPrefixOf t then readInteger 2 (t.drop 2)
  else if "0x".toList.isPrefixOf t then readInteger 16 (t.drop 2)
  else
    match t with
    | [] => .error .noNumber
    | c :: _ =>
      if c = '0' then readInteger 8 t
      else if t.contains ':' then do
        let places ← (t.splitOn ':').mapM (readInteger 10)
        return places.foldl (fun n place => 60 * n + place) 0
      else readInteger 10 t

def intOf (text : Text) : Except Fault Value := do
  let (negative, t) ← signOf (text.filter (· ≠ '_'))
  let n ← magnitudeOf t
  return .int (if negative then -n else n)

/-- The sum of sexagesimal places, the last one first; `unit` is the value of a one at the first. -/
def sumPlaces (sum : Binary64) (unit : Nat) : List Binary64 → Binary64
  | [] => sum
  | place :: rest =>
    sumPlaces (sum.add (place.mul (.ofInt unit))) (60 * unit) rest

def lowerCase (t : Text) : Text := t.map fun c => Char.ofNat (Unicode.lower c.toNat)

def floatOf (text : Text) : Except Fault Value := do
  let (negative, t) ← signOf (lowerCase (text.filter (· ≠ '_')))
  let x ←
    if t = ".inf".toList then pure (Binary64.infinite false)
    else if t = ".nan".toList then pure Binary64.nan
    else if t.contains ':' then do
      let places ← (t.splitOn ':').mapM readReal
      pure (sumPlaces (.zero false) 1 places.reverse)
    else readReal t
  return .float (if negative then x.negate else x)

def trueWords : List Text := ["yes", "true", "on"].map String.toList

def falseWords : List Text := ["no", "false", "off"].map String.toList

def boolOf (text : Text) : Except Fault Value :=
  let word := lowerCase text
  if trueWords.contains word then .ok (.bool true)
  else if falseWords.contains word then .ok (.bool false)
  else .error (.truthValue word)

def binaryOf (text : Text) : Except Fault Value :=
  if text.all (·.toNat < 0x80) then
    (Text.Base64.decode text).elim (.error .malformed) fun bs => .ok (.bytes bs)
  else .error .malformed

def timestampOf (text : Text) : Except Fault Value :=
  match Timestamp.ofText? (dropFinalBreak text) with
  | some s => s.toValue
  | none => .error .timestamp

/-- The value of a garbled scalar with a tag of scalars. -/
def Tag.garbledOf (g : Text.Garbled) : Tag → Except Fault Value
  | null => .ok .null
  | bool => .error (.garbledTruthValue g)
  | int => .error (.number (.garbledInteger g))
  | float => .error (.number (.garbledReal g))
  | timestamp => .error .timestamp
  | str => .ok (.garbled g)
  | _ => .error .malformed

/-- The value of a scalar with a tag of scalars. -/
def Tag.valueOf (text : Text) : Tag → Except Fault Value
  | null => .ok .null
  | bool => boolOf text
  | int => intOf text
  | float => floatOf text
  | binary => binaryOf text
  | timestamp => timestampOf text
  | str => .ok (.text text)
  | _ => .error .malformed

end Stencil.Yaml
