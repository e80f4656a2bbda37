import Stencil.Binary64.Decimal
import Stencil.Value.Shown

/-! # Conversions

A value is written as an integer, as a real number or as plain text, after it has been converted to
what is asked for: a text to the number that it denotes, a real number to its whole part, a truth
value to one or zero.
-/
namespace Stencil.Conversion

inductive Fault
  | notAnInteger (base : Nat) (text : Text)
  | tooLongToRead (digits : Nat)
  | tooLongToShow
  | notAReal (text : Text)
  | garbledInteger (g : Text.Garbled)
  | garbledReal (g : Text.Garbled)
  | garbledText
  | noIntegerFrom (typeName : Text)
  | noRealFrom (typeName : Text)
  | infinite
  | nan
  | tooLarge
  | unwritable (fault : Numeral.WriteFault)
deriving DecidableEq, Repr

/-- The part of a quoted text that a report shows. -/
def reportLength : Nat := 200

def Fault.message : Fault → Text
  | notAnInteger base text =>
    "invalid literal for int() with base ".toList ++ Text.ofNat base ++ ": ".toList ++
      text.quote.take reportLength
  | tooLongToRead digits =>
    "Exceeds the limit (4300 digits) for integer string conversion: value has ".toList ++
      Text.ofNat digits ++ " digits; use sys.set_int_max_str_digits() to increase the limit".toList
  | tooLongToShow =>
    ("Exceeds the limit (4300 digits) for integer string conversion; " ++
      "use sys.set_int_max_str_digits() to increase the limit").toList
  | notAReal text => "could not convert string to float: ".toList ++ text.quote
  | garbledInteger g =>
    "invalid literal for int() with base 10: ".toList ++ g.quote.take reportLength
  | garbledReal g => "could not convert string to float: ".toList ++ g.quote
  | garbledText => "surrogates not allowed".toList
  | noIntegerFrom typeName =>
    "int() argument must be a string, a bytes-like object or a real number, not '".toList ++
      typeName ++ ['\'']
  | noRealFrom typeName =>
    "float() argument must be a string or a real number, not '".toList ++ typeName ++ ['\'']
  | infinite => "cannot convert float infinity to integer".toList
  | nan => "cannot convert float NaN to integer".toList
  | tooLarge => "int too large to convert to float".toList
  | unwritable fault => fault.message

def readInteger (base : Nat) (text : Text) : Except Fault Int :=
  (Numeral.read base text).mapError fun
    | .malformed => .notAnInteger base text
    | .tooLong digits => .tooLongToRead digits

def readReal (text : Text) : Except Fault Binary64 :=
  (Binary64.read text).elim (.error (.notAReal text)) .ok

def toInteger : Value → Except Fault Int
  | .bool b => .ok (if b then 1 else 0)
  | .int n => .ok n
  | .float (.finite s m e) => .ok (Binary64.truncate s m e).1
  | .float (.infinite _) => .error .infinite
  | .float .nan => .error .nan
  | .text t => readInteger 10 t
  | .garbled g => .error (.garbledInteger g)
  | v => .error (.noIntegerFrom v.typeName)

def toReal : Value → Except Fault Binary64
  | .bool b => .ok (.ofInt (if b then 1 else 0))
  | .int n =>
    let x := Binary64.ofInt n
    if x.isFinite then .ok x else .error .tooLarge
  | .float x => .ok x
  | .text t => readReal t
  | .garbled g => .error (.garbledReal g)
  | v => .error (.noRealFrom v.typeName)

/-- A garbled string is no text and so cannot be written. -/
def toPlain : Value → Except Fault Text
  | .garbled _ => .error .garbledText
  | v => if v.canShow then .ok v.plain else .error .tooLongToShow

end Stencil.Conversion
