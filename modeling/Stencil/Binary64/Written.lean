import Stencil.Binary64
import Stencil.Text

/-! # Writing binary64 numbers

With a fixed number of places, positionally or with an exponent, a tie going to the even digit; or
with the fewest digits that read back as the same number.
-/
namespace Stencil.Binary64

def sign (negative : Bool) : Text := if negative then ['-'] else []

def padded (width n : Nat) : Text :=
  let t := Text.ofNat n
  List.replicate (width - t.length) '0' ++ t

/-- A whole number of `10 ^ -places` with a decimal point. -/
def pointed (places n : Nat) : Text :=
  if places = 0 then Text.ofNat n
  else Text.ofNat (n / Nat.pow 10 places) ++ '.' :: padded places (n % Nat.pow 10 places)

def exponentText (x : Int) : Text :=
  'e' :: (if x < 0 then '-' else '+') :: padded 2 x.natAbs

def toFixed (places : Nat) : Binary64 → Text
  | .finite s m e =>
    let (n, d) := magnitude m e
    sign s ++ pointed places (roundDiv (n * Nat.pow 10 places) d)
  | .infinite s => sign s ++ "inf".toList
  | .nan => "nan".toList

/-- The greatest `x` from `guess` on, at most `fuel` steps further, with `10 ^ x ≤ n / d`. -/
def raiseLog (n d : Nat) : Nat → Int → Int
  | 0, x => x
  | fuel + 1, x =>
    let (p, q) := scaleDown 10 n d (x + 1)
    if q ≤ p then raiseLog n d fuel (x + 1) else x

/-- The decimal exponent of a positive fraction: the greatest `x` with `10 ^ x ≤ n / d`. -/
def log10 (n d : Nat) : Int :=
  raiseLog n d 8 ((((n.log2 : Int) - d.log2) * 30103).fdiv 100000 - 2)

/-- The number with one digit before the point, `places` behind it, and an exponent. -/
def toExponential (places : Nat) : Binary64 → Text
  | .finite s m e =>
    if m = 0 then sign s ++ pointed places 0 ++ exponentText 0
    else
      let (n, d) := magnitude m e
      let x := log10 n d
      let (p, q) := scaleDown 10 n d (x - places)
      let digits := roundDiv p q
      if digits = Nat.pow 10 (places + 1) then
        sign s ++ pointed places (Nat.pow 10 places) ++ exponentText (x + 1)
      else sign s ++ pointed places digits ++ exponentText x
  | .infinite s => sign s ++ "inf".toList
  | .nan => "nan".toList

/-- Four times the magnitude and the bounds of the reals that round to it, over a common
denominator.  The gap below a power of two is half as wide. -/
def bounds (mantissa : Nat) (exponent : Int) : Nat × Nat × Nat × Nat :=
  let (n, d) := magnitude 1 exponent
  let below := if mantissa = Nat.pow 2 52 ∧ leastExponent < exponent then 1 else 2
  (4 * mantissa * n, (4 * mantissa - below) * n, (4 * mantissa + 2) * n, 4 * d)

/-- Whether `k * 10 ^ x` rounds to the number with the given bounds. -/
def rounds (even : Bool) (low high d : Nat) (k : Nat) (x : Int) : Bool :=
  let (n, q) := scaleDown 10 (k * d) 1 (-x)
  if even then low * q ≤ n && n ≤ high * q else low * q < n && n < high * q

/-- The first of the grids from `count` digits on that has a point which rounds to the number, and
the nearest such point; of two that are equally near the one with an even last digit. -/
def searchShortest (v low high d : Nat) (even : Bool) (top : Int) : Nat → Nat → Nat × Int
  | 0, count => (roundDiv (scaleDown 10 v d (top - count)).1 (scaleDown 10 v d (top - count)).2, top - count)
  | fuel + 1, count =>
    let x := top - count
    let (p, q) := scaleDown 10 v d x
    let k := p / q
    let lower := rounds even low high d k x
    let upper := rounds even low high d (k + 1) x
    let isNearer := 2 * (p % q) < q || (2 * (p % q) == q && k % 2 == 0)
    if lower && upper then (if isNearer then k else k + 1, x)
    else if lower then (k, x)
    else if upper then (k + 1, x)
    else searchShortest v low high d even top fuel (count + 1)

/-- The digits and the decimal exponent of the shortest decimal that rounds to a positive number. -/
def shortest (mantissa : Nat) (exponent : Int) : Nat × Int :=
  let (v, low, high, d) := bounds mantissa exponent
  searchShortest v low high d (mantissa % 2 == 0) (log10 v d) 17 0

/-- Digits without trailing zeros, positionally when the decimal exponent is from `-4` to `15`. -/
def layOut (digits : Nat) (x : Int) : Text :=
  let ds := ((Text.ofNat digits).reverse.dropWhile (· == '0')).reverse
  let point := x + (Text.ofNat digits).length
  if -3 ≤ point ∧ point ≤ 16 then
    if point ≤ 0 then "0.".toList ++ List.replicate point.natAbs '0' ++ ds
    else if point.natAbs < ds.length then ds.take point.natAbs ++ '.' :: ds.drop point.natAbs
    else ds ++ List.replicate (point.natAbs - ds.length) '0' ++ ".0".toList
  else
    (match ds with
      | [] => []
      | [c] => [c]
      | c :: rest => c :: '.' :: rest) ++ exponentText (point - 1)

def toShortest : Binary64 → Text
  | .finite s m e =>
    if m = 0 then sign s ++ "0.0".toList
    else
      let (digits, x) := shortest m e
      sign s ++ layOut digits x
  | .infinite s => sign s ++ "inf".toList
  | .nan => "nan".toList

end Stencil.Binary64
