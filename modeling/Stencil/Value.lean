import Stencil.Binary64
import Stencil.Object
import Stencil.Text.Garbled

/-! # Configuration values

The values that a configuration holds and that typed templates write and read.
-/
namespace Stencil

structure Date where
  year : Nat
  month : Nat
  day : Nat
deriving DecidableEq, Repr

/-- A date with a time of day; `offset` is the distance from universal time in seconds, if known. -/
structure Moment where
  date : Date
  hour : Nat
  minute : Nat
  second : Nat
  microsecond : Nat
  offset : Option Int
deriving DecidableEq, Repr

namespace Date

def isLeapYear (year : Nat) : Bool := year % 4 == 0 && (year % 100 != 0 || year % 400 == 0)

def daysInMonth (year month : Nat) : Nat :=
  match month with
  | 2 => if isLeapYear year then 29 else 28
  | 4 => 30
  | 6 => 30
  | 9 => 30
  | 11 => 30
  | _ => 31

/-- The number of days before a date, from the first of January of the year one on. -/
def dayNumber (d : Date) : Nat :=
  let y := d.year - 1
  let months := (List.range (d.month - 1)).map fun m => daysInMonth d.year (m + 1)
  365 * y + y / 4 - y / 100 + y / 400 + months.foldl (· + ·) 0 + (d.day - 1)

end Date

namespace Moment

def clock (m : Moment) : Int :=
  (((m.date.dayNumber * 24 + m.hour) * 60 + m.minute) * 60 + m.second) * 1000000 + m.microsecond

/-- Whether two moments are the same instant; one with a known offset never is one without. -/
def sameAs (m n : Moment) : Bool :=
  match m.offset, n.offset with
  | none, none => m.clock == n.clock
  | some a, some b => m.clock - a * 1000000 == n.clock - b * 1000000
  | _, _ => false

end Moment

inductive Value
  | null
  | bool (b : Bool)
  | int (n : Int)
  | float (x : Binary64)
  | text (t : Text)
  | garbled (g : Text.Garbled)
  | bytes (bs : List UInt8)
  | date (d : Date)
  | moment (m : Moment)
  | list (items : List Value)
  | pair (first second : Value)
  | set (items : List Value)
  | mapping (entries : List (Value × Value))
  | object (o : Object)
deriving Repr, Inhabited

namespace Value

def isEmpty : Value → Bool
  | null => true
  | bool b => !b
  | int n => n == 0
  | float x => x.isZero
  | text t => t.isEmpty
  | bytes bs => bs.isEmpty
  | list items => items.isEmpty
  | set items => items.isEmpty
  | mapping entries => entries.isEmpty
  | _ => false

def canBeKey : Value → Bool
  | list _ => false
  | set _ => false
  | mapping _ => false
  | pair a b => canBeKey a && canBeKey b
  | object o => o.canBeKey
  | _ => true

/-- The number that a truth value, an integer or a finite float is. -/
def asRatio? : Value → Option (Int × Nat)
  | bool b => some (if b then 1 else 0, 1)
  | int n => some (n, 1)
  | float (.finite s m e) =>
    let (n, d) := Binary64.magnitude m e
    some (Binary64.signed s n, d)
  | _ => none

/-- Whether two keys count as the same: numbers by their value, moments by the instant. -/
def sameKey : Value → Value → Bool
  | null, null => true
  | float (.infinite s), float (.infinite t) => s == t
  | text t, text u => t == u
  | garbled g, garbled h => g == h
  | bytes bs, bytes cs => bs == cs
  | date d, date e => d == e
  | moment m, moment n => m.sameAs n
  | pair a b, pair c d => sameKey a c && sameKey b d
  | object o, object p => o == p
  | v, w =>
    match asRatio? v, asRatio? w with
    | some (n, d), some (m, e) => n * e == m * d
    | _, _ => false

/-- Put an entry into a mapping.  A key that is there already keeps its place and its form. -/
def insert (key value : Value) : List (Value × Value) → List (Value × Value)
  | [] => [(key, value)]
  | (k, v) :: rest =>
    if sameKey k key then (k, value) :: rest else (k, v) :: insert key value rest

def ofEntries (entries : List (Value × Value)) : Value :=
  mapping (entries.foldl (fun done (k, v) => insert k v done) [])

def field? (entries : List (Value × Value)) (name : Text) : Option Value :=
  entries.findSome? fun
    | (text t, v) => if t = name then some v else none
    | _ => none

mutual

/-- The objects that stand in a value, however deep. -/
def objects : Value → List Object
  | object o => [o]
  | list items => objectsOfAll items
  | pair a b => objects a ++ objects b
  | set items => objectsOfAll items
  | mapping entries => objectsOfEntries entries
  | _ => []

def objectsOfAll : List Value → List Object
  | [] => []
  | v :: rest => objects v ++ objectsOfAll rest

def objectsOfEntries : List (Value × Value) → List Object
  | [] => []
  | (k, v) :: rest => objects k ++ objects v ++ objectsOfEntries rest

end
end Value
end Stencil
