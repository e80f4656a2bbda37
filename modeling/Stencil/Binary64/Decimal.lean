import Stencil.Binary64
import Stencil.Numeral

/-! # Reading decimal numbers

A decimal numeral denotes a sign and an exact decimal value, and only these decide which binary64
number it is read as.  The words for infinity and for no number at all are read in any letter case.
-/
namespace Stencil

/-- The exact value `digits * 10 ^ exponent` and its sign. -/
structure Decimal where
  negative : Bool
  digits : Nat
  exponent : Int
deriving DecidableEq, Repr

namespace Decimal

/-- `n` without trailing zeros, and how many there were. -/
def dropZeros (n : Nat) : Nat × Nat :=
  if _h : n % 10 = 0 ∧ n ≠ 0 then
    let (m, k) := dropZeros (n / 10)
    (m, k + 1)
  else (n, 0)
termination_by n
decreasing_by omega

def normalize (d : Decimal) : Decimal :=
  if d.digits = 0 then ⟨d.negative, 0, 0⟩
  else
    let (m, k) := dropZeros d.digits
    ⟨d.negative, m, d.exponent + k⟩

/-- The nearest binary64 number to a value in its shortest form.  A value far outside the range of
the format is told by its size. -/
def round (d : Decimal) : Binary64 :=
  let size : Int := d.digits.log2
  if d.digits = 0 then .zero d.negative
  else if 0 ≤ d.exponent then
    if 1100 < size + 3 * d.exponent then .infinite d.negative
    else .ofRatio d.negative (d.digits * Nat.pow 10 d.exponent.natAbs) 1
  else if size + 1 + 3 * d.exponent < -1200 then .zero d.negative
  else .ofRatio d.negative d.digits (Nat.pow 10 d.exponent.natAbs)

def toBinary64 (d : Decimal) : Binary64 := d.normalize.round

end Decimal

namespace Binary64

/-- The text without its underscores, each of which must stand between two digits. -/
def dropUnderscores (last : Option Char) : Text → Option Text
  | [] => if last = some '_' then none else some []
  | c :: rest =>
    if c = '_' then
      if last.any Char.isDigit then dropUnderscores (some c) rest else none
    else if last = some '_' && !c.isDigit then none
    else (dropUnderscores (some c) rest).map (c :: ·)

def readExponent : Text → Option Int
  | [] => some 0
  | e :: rest =>
    if e = 'e' ∨ e = 'E' then
      let (negative, ds) := Numeral.takeSign rest
      if ds.isEmpty || !ds.all Char.isDigit then none
      else
        let n := Numeral.positional 10 (ds.filterMap Numeral.digitValue)
        some (if negative then -n else n)
    else none

/-- An unsigned decimal numeral: digits, with a point in front, among or behind them, and an
exponent. -/
def readDecimal (negative : Bool) (text : Text) : Option Decimal :=
  let whole := text.takeWhile Char.isDigit
  let rest := text.dropWhile Char.isDigit
  let (fraction, rest) :=
    match rest with
    | '.' :: r => (r.takeWhile Char.isDigit, r.dropWhile Char.isDigit)
    | r => ([], r)
  if whole.isEmpty && fraction.isEmpty then none
  else
    (readExponent rest).map fun e =>
      ⟨negative, Numeral.positional 10 ((whole ++ fraction).filterMap Numeral.digitValue),
        e - fraction.length⟩

def readSigned (text : Text) : Option Binary64 :=
  let (negative, rest) := Numeral.takeSign text
  let word := rest.map Text.asciiLower
  if word = "inf".toList ∨ word = "infinity".toList then some (.infinite negative)
  else if word = "nan".toList then some .nan
  else (readDecimal negative rest).map Decimal.toBinary64

def read (text : Text) : Option Binary64 :=
  let trimmed := Text.trim Numeral.isAsciiBlank (text.map Numeral.toAscii)
  (dropUnderscores none trimmed).bind readSigned

end Binary64
end Stencil
