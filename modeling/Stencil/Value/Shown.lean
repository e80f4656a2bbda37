import Stencil.Binary64.Written
import Stencil.Text.Quoted
import Stencil.Value

/-! # Shown values

A value as it stands in a message or in a filled-out template.  `quoted` quotes texts; `plain` leaves a
text as it is.
-/
namespace Stencil
namespace Date

def parts (d : Date) : Text :=
  ", ".toList.intercalate [Text.ofNat d.year, Text.ofNat d.month, Text.ofNat d.day]

def plain (d : Date) : Text :=
  Binary64.padded 4 d.year ++ '-' :: Binary64.padded 2 d.month ++ '-' :: Binary64.padded 2 d.day

end Date

namespace Moment

/-- A distance from universal time as hours and minutes, and seconds if there are any. -/
def offsetText (offset : Int) : Text :=
  let n := offset.natAbs
  (if offset < 0 then '-' else '+') :: Binary64.padded 2 (n / 3600) ++ ':' ::
    Binary64.padded 2 (n / 60 % 60) ++
      if n % 60 = 0 then [] else ':' :: Binary64.padded 2 (n % 60)

def plain (m : Moment) : Text :=
  m.date.plain ++ ' ' :: Binary64.padded 2 m.hour ++ ':' :: Binary64.padded 2 m.minute ++
    ':' :: Binary64.padded 2 m.second ++
    (if m.microsecond = 0 then [] else '.' :: Binary64.padded 6 m.microsecond) ++
    (m.offset.map offsetText).getD []

def zone (offset : Int) : Text :=
  if offset = 0 then "datetime.timezone.utc".toList
  else
    let days := offset.fdiv 86400
    let seconds := offset.fmod 86400
    "datetime.timezone(datetime.timedelta(".toList ++
      ", ".toList.intercalate
        ((if days = 0 then [] else ["days=".toList ++ Text.ofInt days]) ++
          (if seconds = 0 then [] else ["seconds=".toList ++ Text.ofInt seconds])) ++ "))".toList

def parts (m : Moment) : Text :=
  ", ".toList.intercalate
    ([m.date.parts, Text.ofNat m.hour, Text.ofNat m.minute] ++
      (if m.second = 0 ∧ m.microsecond = 0 then [] else [Text.ofNat m.second]) ++
      (if m.microsecond = 0 then [] else [Text.ofNat m.microsecond]) ++
      (m.offset.map fun o => ["tzinfo=".toList ++ zone o]).getD [])

end Moment

/-- An object as the call that makes it. -/
def Object.called (name : Text) (fields : List Text) : Text :=
  name ++ '(' :: ", ".toList.intercalate fields ++ [')']

namespace Alignment

/-- The name of a member of the enumeration. -/
def Kind.member (k : Kind) : Text := "AlignmentKind.".toList ++ k.tag.map Text.asciiUpper

def Kind.quoted (k : Kind) : Text := '<' :: k.member ++ ": ".toList ++ k.tag.quote ++ ['>']

def shownFields (a : Alignment) : List Text := [
  "kind=".toList ++ a.kind.quoted, "width=".toList ++ Text.ofNat a.width,
  "fill=".toList ++ Text.quote [a.fill]]

end Alignment

def truthText (b : Bool) : Text := (if b then "True" else "False").toList

namespace Format

def Kind.shownFields : Kind → List Text
  | integer base => ["base=".toList ++ Text.ofNat base]
  | real digits exponential =>
    ["digits=".toList ++ Text.ofNat digits, "exponential_notation=".toList ++ truthText exponential]
  | text regex => ["regex=".toList ++ regex.source.quote]

def shownFields (f : Format) : List Text :=
  ("alignment=".toList ++ Object.called "Alignment".toList f.alignment.shownFields) ::
    ("kind=".toList ++ f.kind.tag.quote) :: f.kind.shownFields

end Format

def Definition.shownFields (d : Definition) : List Text :=
  let target (t : Text × Format) : Text :=
    t.1.quote ++ ": ".toList ++ Object.called t.2.kind.title t.2.shownFields
  ["template=".toList ++ d.template.quote,
    "targets=\x7b".toList ++ ", ".toList.intercalate (d.targets.map target) ++ ['\x7d']]

namespace Object

def shownFields : Object → List Text
  | alignmentKind k => [k.quoted]
  | alignment a => a.shownFields
  | format f => f.shownFields
  | definition d => d.shownFields

def quoted : Object → Text
  | alignmentKind k => k.quoted
  | o => called o.typeName o.shownFields

def plain : Object → Text
  | alignmentKind k => k.member
  | o => [' '].intercalate o.shownFields

/-- The width among the settings of an object is the only number that may be long. -/
def widths : Object → List Nat
  | alignmentKind _ => []
  | alignment a => [a.width]
  | format f => [f.alignment.width]
  | definition d => d.targets.map (·.2.alignment.width)

end Object

namespace Value

def quotedByte (q : Char) (b : UInt8) : Text :=
  let c := Char.ofNat b.toNat
  if c = q ∨ c = '\\' then ['\\', c]
  else if c = '\t' then ['\\', 't']
  else if c = '\n' then ['\\', 'n']
  else if c = '\r' then ['\\', 'r']
  else if b < 0x20 ∨ 0x7f ≤ b then '\\' :: 'x' :: Text.hex 2 b.toNat
  else [c]

def quotedBytes (bs : List UInt8) : Text :=
  let q := if bs.contains 0x27 && !bs.contains 0x22 then '"' else '\''
  'b' :: q :: bs.flatMap (quotedByte q) ++ [q]

mutual

/-- A value as it stands inside another one. -/
def quoted : Value → Text
  | null => "None".toList
  | bool b => truthText b
  | int n => Text.ofInt n
  | float x => x.toShortest
  | text t => Text.quote t
  | garbled g => g.quote
  | bytes bs => quotedBytes bs
  | date d => "datetime.date(".toList ++ d.parts ++ [')']
  | moment m => "datetime.datetime(".toList ++ m.parts ++ [')']
  | list items => Text.bracketed (quotedAll items)
  | pair a b => '(' :: quoted a ++ ", ".toList ++ quoted b ++ [')']
  | set items =>
    if items.isEmpty then "set()".toList
    else '\x7b' :: ", ".toList.intercalate (quotedAll items) ++ ['\x7d']
  | mapping entries => '\x7b' :: ", ".toList.intercalate (quotedEntries entries) ++ ['\x7d']
  | object o => o.quoted

def quotedAll : List Value → List Text
  | [] => []
  | v :: rest => quoted v :: quotedAll rest

def quotedEntries : List (Value × Value) → List Text
  | [] => []
  | (k, v) :: rest => (quoted k ++ ": ".toList ++ quoted v) :: quotedEntries rest

end

/-- A value as text of its own. -/
def plain : Value → Text
  | text t => t
  | garbled g => g.marked
  | date d => d.plain
  | moment m => m.plain
  | object o => o.plain
  | v => quoted v

/-- The name of a value's type in messages. -/
def typeName : Value → Text
  | null => "NoneType".toList
  | bool _ => "bool".toList
  | int _ => "int".toList
  | float _ => "float".toList
  | text _ => "str".toList
  | garbled _ => "str".toList
  | bytes _ => "bytes".toList
  | date _ => "datetime.date".toList
  | moment _ => "datetime.datetime".toList
  | list _ => "list".toList
  | pair .. => "tuple".toList
  | set _ => "set".toList
  | mapping _ => "dict".toList
  | object o => o.typeName

/-- The most digits that an integer may have to be shown. -/
def shownDigits : Nat := 4300

mutual

/-- Whether every integer in the value is short enough to be shown. -/
def canShow : Value → Bool
  | int n => n.natAbs < Nat.pow 10 shownDigits
  | list items => canShowAll items
  | pair a b => canShow a && canShow b
  | set items => canShowAll items
  | mapping entries => canShowEntries entries
  | object o => o.widths.all (· < Nat.pow 10 shownDigits)
  | _ => true

def canShowAll : List Value → Bool
  | [] => true
  | v :: rest => canShow v && canShowAll rest

def canShowEntries : List (Value × Value) → Bool
  | [] => true
  | (k, v) :: rest => canShow k && canShow v && canShowEntries rest

end
end Value
end Stencil
