import Stencil.SignedIndex
import Stencil.Text

/-! # Integer numerals

Integers are written with the digits `0` to `9` and `a` to `z`, by repeated floor division, and read
in either letter case.  A numeral that is read may have blanks around it, a sign, the mark of its
base (`0b`, `0o`, `0x`) and single underscores between digits; the digits may be decimal digits of
any script.  Unless the base is a power of two at most 4300 digits are read.
-/
namespace Stencil.Numeral

def alphabet : Text := "0123456789abcdefghijklmnopqrstuvwxyz".toList

inductive WriteFault
  | zeroBase
  | noSuchDigit
  | endless
deriving DecidableEq, Repr

def WriteFault.message : WriteFault → Text
  | zeroBase => "integer division or modulo by zero".toList
  | noSuchDigit => "string index out of range".toList
  | endless => "the digits never end".toList

/-- What floor division lowers, unless the base is one or minus one. -/
def left (value : Int) : Nat := 2 * value.natAbs + if 0 < value then 1 else 0

/-- The digits of a value, the remainders of repeated floor division by the base.  A remainder looks
its digit up as a signed index, so a negative base takes digits from the end of the alphabet. -/
def digits (base value : Int) : Except WriteFault Text :=
  if base = 0 then .error .zeroBase
  else
    match getSigned? alphabet (value.fmod base) with
    | none => .error .noSuchDigit
    | some d =>
      if value.fdiv base = 0 then .ok [d]
      else if _h : left (value.fdiv base) < left value then
        (digits base (value.fdiv base)).map (· ++ [d])
      else .error .endless
termination_by left value

def write (base value : Int) : Except WriteFault Text :=
  if value < 0 then (digits base (-value)).map ('-' :: ·) else digits base value

inductive ReadFault
  | malformed
  | tooLong (digits : Nat)
deriving DecidableEq, Repr

/-- The most digits that are read in a base that is not a power of two. -/
def digitLimit : Nat := 4300

def digitValue (c : Char) : Option Nat :=
  if '0' ≤ c ∧ c ≤ '9' then some (c.toNat - '0'.toNat)
  else if 'a' ≤ c ∧ c ≤ 'z' then some (c.toNat - 'a'.toNat + 10)
  else if 'A' ≤ c ∧ c ≤ 'Z' then some (c.toNat - 'A'.toNat + 10)
  else none

/-- Blanks and decimal digits of every script in ASCII; any other character that is not ASCII
becomes a question mark, which no numeral holds. -/
def toAscii (c : Char) : Char :=
  if c.toNat < 0x7f then c
  else if Text.isBlank c then ' '
  else match Unicode.digitValue? c.toNat with
    | some d => Char.ofNat ('0'.toNat + d)
    | none => '?'

def isAsciiBlank (c : Char) : Bool := c == ' ' || (0x9 ≤ c.toNat && c.toNat ≤ 0xd)

/-- The leading digits of a text and what follows them; `none` if two underscores meet or one stands
last.  `afterUnderscore` says that one has just been read. -/
def digitsOf (base : Nat) (afterUnderscore : Bool) : Text → Option (List Nat × Text)
  | [] => if afterUnderscore then none else some ([], [])
  | c :: rest =>
    if c = '_' then
      if afterUnderscore then none else digitsOf base true rest
    else
      match (digitValue c).filter (· < base) with
      | some d => (digitsOf base false rest).map fun (ds, tail) => (d :: ds, tail)
      | none => if afterUnderscore then none else some ([], c :: rest)

/-- The positional value of digits, the first one counting most. -/
def positional (base : Nat) (ds : List Nat) : Nat := ds.foldl (fun n d => n * base + d) 0

/-- The letter that marks a base after a leading zero. -/
def baseMark : Nat → Option Char
  | 2 => some 'b'
  | 8 => some 'o'
  | 16 => some 'x'
  | _ => none

/-- The text after the mark of the base and one underscore behind it. -/
def dropBaseMark (base : Nat) : Text → Text
  | '0' :: c :: rest =>
    if some (Text.asciiLower c) = baseMark base then
      match rest with
      | '_' :: rest => rest
      | _ => rest
    else '0' :: c :: rest
  | text => text

def takeSign : Text → Bool × Text
  | '-' :: rest => (true, rest)
  | '+' :: rest => (false, rest)
  | text => (false, text)

def isPowerOfTwo (base : Nat) : Bool := base &&& (base - 1) == 0

def readUnsigned (base : Nat) (text : Text) : Except ReadFault Nat :=
  if text.head? = some '_' then .error .malformed
  else
    match digitsOf base false text with
    | none => .error .malformed
    | some (ds, tail) =>
      if !isPowerOfTwo base && digitLimit < ds.length then .error (.tooLong ds.length)
      else if ds.isEmpty || !tail.all isAsciiBlank then .error .malformed
      else .ok (positional base ds)

def read (base : Nat) (text : Text) : Except ReadFault Int :=
  let (negative, rest) := takeSign ((text.map toAscii).dropWhile isAsciiBlank)
  (readUnsigned base (dropBaseMark base rest)).map fun n => if negative then -n else n

end Stencil.Numeral
