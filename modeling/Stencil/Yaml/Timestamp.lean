import Stencil.Value
import Stencil.Yaml.Fault

/-! # Timestamps

A timestamp is a date, or a date and a time with an optional distance from universal time.
-/
namespace Stencil.Yaml

/-- The text without one line break at its end. -/
def dropFinalBreak (t : Text) : Text := if t.getLast? = some '\n' then t.dropLast else t

structure TimeText where
  hour : Text
  minute : Text
  second : Text
  fraction : Text
  zone : Option (Bool × Text × Text)
deriving DecidableEq, Repr

structure Timestamp where
  year : Text
  month : Text
  day : Text
  time : Option TimeText
deriving DecidableEq, Repr

namespace Timestamp

/-- Between `least` and `most` digits at the start of a text, as many as there are. -/
def digits (least most : Nat) (t : Text) : Option (Text × Text) :=
  let ds := (t.take most).takeWhile Char.isDigit
  if ds.length < least then none else some (ds, t.drop ds.length)

def expect (c : Char) : Text → Option Text
  | [] => none
  | d :: rest => if d = c then some rest else none

def isSpace (c : Char) : Bool := c == ' ' || c == '\t'

/-- The distance from universal time, which is the rest of the text: its sign, hours and minutes. -/
def zoneOf : Text → Option (Bool × Text × Text)
  | ['Z'] => some (false, [], [])
  | c :: rest =>
    if c = '+' ∨ c = '-' then do
      let (hour, rest) ← digits 1 2 rest
      if rest.isEmpty then return (c == '-', hour, [])
      else
        let (minute, rest) ← digits 2 2 (← expect ':' rest)
        if rest.isEmpty then return (c == '-', hour, minute) else none
    else none
  | [] => none

/-- The time behind a date, which is the rest of the text. -/
def timeOf (t : Text) : Option TimeText := do
  let rest ← match t with
    | 'T' :: rest => some rest
    | 't' :: rest => some rest
    | c :: rest => if isSpace c then some (rest.dropWhile isSpace) else none
    | [] => none
  let (hour, rest) ← digits 1 2 rest
  let (minute, rest) ← digits 2 2 (← expect ':' rest)
  let (second, rest) ← digits 2 2 (← expect ':' rest)
  let (fraction, rest) := match rest with
    | '.' :: rest => (rest.takeWhile Char.isDigit, rest.dropWhile Char.isDigit)
    | rest => ([], rest)
  if rest.isEmpty then return ⟨hour, minute, second, fraction, none⟩
  else return ⟨hour, minute, second, fraction, some (← zoneOf (rest.dropWhile isSpace))⟩

def ofText? (t : Text) : Option Timestamp := do
  let (year, rest) ← digits 4 4 t
  let (month, rest) ← digits 1 2 (← expect '-' rest)
  let (day, rest) ← digits 1 2 (← expect '-' rest)
  if rest.isEmpty then return ⟨year, month, day, none⟩
  else return ⟨year, month, day, some (← timeOf rest)⟩

/-- Whether a plain text is told to be a timestamp: a date alone has two digits for month and day. -/
def isPlain (t : Text) : Bool :=
  (ofText? t).any fun s => s.time.isSome || (s.month.length == 2 && s.day.length == 2)

def number (ds : Text) : Nat := Numeral.positional 10 (ds.filterMap Numeral.digitValue)

def check (ok : Bool) (part : ClockPart) : Except Fault Unit :=
  if ok then .ok () else .error (.clock part)

def dateOf (s : Timestamp) : Except Fault Date := do
  let year := number s.year
  let month := number s.month
  let day := number s.day
  check (1 ≤ year) (.year year)
  check (1 ≤ month && month ≤ 12) .month
  check (1 ≤ day && day ≤ Date.daysInMonth year month) .day
  return ⟨year, month, day⟩

/-- The microseconds of the first six digits behind the point. -/
def microseconds (fraction : Text) : Nat :=
  number ((fraction ++ List.replicate 6 '0').take 6)

def offsetOf : Option (Bool × Text × Text) → Except Fault (Option Int)
  | none => .ok none
  | some (negative, hour, minute) => do
    let n : Int := (number hour * 60 + number minute) * 60
    let offset := if negative then -n else n
    check (n < 86400) (.offset offset)
    return some offset

def momentOf (s : Timestamp) (t : TimeText) : Except Fault Moment := do
  let offset ← offsetOf t.zone
  let date ← s.dateOf
  check (number t.hour ≤ 23) .hour
  check (number t.minute ≤ 59) .minute
  check (number t.second ≤ 59) .second
  return ⟨date, number t.hour, number t.minute, number t.second, microseconds t.fraction, offset⟩

def toValue (s : Timestamp) : Except Fault Value :=
  match s.time with
  | none => s.dateOf.map .date
  | some t => (s.momentOf t).map .moment

end Timestamp
end Stencil.Yaml
