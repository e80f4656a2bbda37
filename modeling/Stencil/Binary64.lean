/-! # Binary floating-point numbers

The numbers of the binary64 format, as exact data: a finite number is a sign, a mantissa and a power
of two.  Rounding is to the nearest number, a tie going to the even mantissa.
-/
namespace Stencil

/-- A binary64 number.  A finite one is `mantissa * 2 ^ exponent`, with a mantissa below `2 ^ 53` and
an exponent from `-1074` on, the least that does. -/
inductive Binary64
  | finite (negative : Bool) (mantissa : Nat) (exponent : Int)
  | infinite (negative : Bool)
  | nan
deriving DecidableEq, Repr

namespace Binary64

/-- The quotient rounded to the nearest whole number, a tie to the even one. -/
def roundDiv (num den : Nat) : Nat :=
  let q := num / den
  let r := num % den
  if den < 2 * r || (2 * r == den && q % 2 == 1) then q + 1 else q

/-- The fraction `num / den / base ^ exponent` as a fraction. -/
def scaleDown (base num den : Nat) (exponent : Int) : Nat × Nat :=
  if exponent < 0 then (num * Nat.pow base exponent.natAbs, den)
  else (num, den * Nat.pow base exponent.natAbs)

def leastExponent : Int := -1074

def zero (negative : Bool) : Binary64 := .finite negative 0 leastExponent

def ofRatio (negative : Bool) (num den : Nat) : Binary64 :=
  if num = 0 then zero negative
  else
    let guess := max ((num.log2 : Int) - den.log2 - 53) leastExponent
    let (n, d) := scaleDown 2 num den guess
    let exponent := if Nat.pow 2 53 ≤ n / d then guess + 1 else guess
    let (n, d) := scaleDown 2 num den exponent
    let mantissa := roundDiv n d
    let (mantissa, exponent) :=
      if mantissa = Nat.pow 2 53 then (Nat.pow 2 52, exponent + 1) else (mantissa, exponent)
    if 971 < exponent then .infinite negative else .finite negative mantissa exponent

def ofInt (n : Int) : Binary64 := ofRatio (n < 0) n.natAbs 1

def isFinite : Binary64 → Bool
  | finite .. => true
  | _ => false

def isZero : Binary64 → Bool
  | finite _ m _ => m == 0
  | _ => false

/-- The magnitude of a finite number as a fraction. -/
def magnitude (mantissa : Nat) (exponent : Int) : Nat × Nat :=
  scaleDown 2 mantissa 1 (-exponent)

/-- The whole part of a finite number, and whether nothing is cut off. -/
def truncate (negative : Bool) (mantissa : Nat) (exponent : Int) : Int × Bool :=
  let (n, d) := magnitude mantissa exponent
  (if negative then -((n / d : Nat) : Int) else (n / d : Nat), n % d == 0)

/-- The signed value of a finite number as a fraction. -/
def signed (negative : Bool) (n : Nat) : Int := if negative then -n else n

def ofSignedRatio (num : Int) (den : Nat) : Binary64 := ofRatio (num < 0) num.natAbs den

/-- The rounded sum; two zeros of one sign keep it. -/
def add : Binary64 → Binary64 → Binary64
  | nan, _ => nan
  | _, nan => nan
  | infinite s, infinite t => if s == t then infinite s else nan
  | infinite s, _ => infinite s
  | _, infinite t => infinite t
  | finite s m e, finite t k f =>
    if m == 0 && k == 0 then zero (s && t)
    else
      let (n, d) := magnitude m e
      let (p, q) := magnitude k f
      ofSignedRatio (signed s n * q + signed t p * d) (d * q)

def mul : Binary64 → Binary64 → Binary64
  | nan, _ => nan
  | _, nan => nan
  | infinite s, infinite t => infinite (s != t)
  | infinite s, finite t k _ => if k == 0 then nan else infinite (s != t)
  | finite s m _, infinite t => if m == 0 then nan else infinite (s != t)
  | finite s m e, finite t k f =>
    let (n, d) := magnitude m e
    let (p, q) := magnitude k f
    ofRatio (s != t) (n * p) (d * q)

def negate : Binary64 → Binary64
  | finite s m e => finite (!s) m e
  | infinite s => infinite (!s)
  | nan => nan

end Binary64
end Stencil
