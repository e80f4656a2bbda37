import Stencil.Conversion
import Stencil.Loader

/-! # Faults of documents

A document is malformed, or it is well formed and holds a scalar that its type cannot take.
-/
namespace Stencil.Yaml

/-- The part of a date or of a time that is out of range. -/
inductive ClockPart
  | year (n : Nat)
  | month
  | day
  | hour
  | minute
  | second
  | offset (seconds : Int)
deriving DecidableEq, Repr

inductive Fault
  | malformed
  | codeTooLarge
  | noSuchCode
  | number (f : Conversion.Fault)
  | noNumber
  | truthValue (word : Text)
  | garbledTruthValue (word : Text.Garbled)
  | timestamp
  | clock (part : ClockPart)
deriving DecidableEq, Repr

/-- A span of time as days and seconds. -/
def spanText (seconds : Int) : Text :=
  let days := seconds.fdiv 86400
  let rest := seconds.fmod 86400
  let parts :=
    (if days = 0 then [] else ["days=".toList ++ Text.ofInt days]) ++
      (if rest = 0 then [] else ["seconds=".toList ++ Text.ofInt rest])
  "datetime.timedelta(".toList ++
    (if parts.isEmpty then ['0'] else ", ".toList.intercalate parts) ++ [')']

def ClockPart.message : ClockPart → Text
  | year n => "year ".toList ++ Text.ofNat n ++ " is out of range".toList
  | month => "month must be in 1..12".toList
  | day => "day is out of range for month".toList
  | hour => "hour must be in 0..23".toList
  | minute => "minute must be in 0..59".toList
  | second => "second must be in 0..59".toList
  | offset seconds =>
    ("offset must be a timedelta strictly between -timedelta(hours=24) and " ++
      "timedelta(hours=24), not ").toList ++ spanText seconds ++ ['.']

def Fault.message : Fault → Text
  | malformed => []
  | codeTooLarge => "Python int too large to convert to C int".toList
  | noSuchCode => "chr() arg not in range(0x110000)".toList
  | number f => f.message
  | noNumber => "string index out of range".toList
  | truthValue word => word.quote
  | garbledTruthValue word => word.quote
  | timestamp => "'NoneType' object has no attribute 'groupdict'".toList
  | clock part => part.message

/-- The class of the exception that a fault is. -/
def Fault.exceptionName : Fault → Text
  | codeTooLarge => "OverflowError".toList
  | noNumber => "IndexError".toList
  | truthValue _ => "KeyError".toList
  | garbledTruthValue _ => "KeyError".toList
  | timestamp => "AttributeError".toList
  | _ => "ValueError".toList

def Fault.toLoader : Fault → Loader.Fault
  | malformed => .malformed
  | f => .exception ⟨f.exceptionName, f.message⟩

end Stencil.Yaml
