import Stencil.Text
import Stencil.Unicode.LetterCase

/-! # Tests of one character

What an expression asks of a single character, with letter case kept or ignored.  Codes are numbers,
not characters: an expression may name a code that no text holds.
-/
namespace Stencil.Regex

inductive Category
  | digit
  | blank
  | word
deriving DecidableEq, Repr

/-- How letter case counts: exactly, or ignored within ASCII or within all scripts. -/
inductive Folding
  | exact
  | ascii
  | unicode
deriving DecidableEq, Repr

inductive SetItem
  | code (c : Nat)
  | range (low high : Nat)
  | category (kind : Category) (negated ascii : Bool)
deriving DecidableEq, Repr

inductive CharTest
  | any (newline : Bool)
  | literal (c : Nat) (negated : Bool) (folding : Folding)
  | set (items : List SetItem) (negated : Bool) (folding : Folding)
deriving DecidableEq, Repr

def Category.holds (ascii : Bool) (c : Nat) : Category → Bool
  | digit => if ascii then 0x30 ≤ c && c ≤ 0x39 else Unicode.isDigit c
  | blank =>
    if ascii then c == 0x20 || (9 ≤ c && c ≤ 0xd) else Unicode.inRuns Text.blankRuns c
  | word =>
    if ascii then
      c == 0x5f || (0x30 ≤ c && c ≤ 0x39) || (0x41 ≤ c && c ≤ 0x5a) || (0x61 ≤ c && c ≤ 0x7a)
    else Unicode.isWord c

namespace Folding

def asciiLower (c : Nat) : Nat := if 0x41 ≤ c && c ≤ 0x5a then c + 32 else c

def lower : Folding → Nat → Nat
  | exact, c => c
  | ascii, c => asciiLower c
  | unicode, c => Unicode.lower c

def isCased : Folding → Nat → Bool
  | exact, _ => false
  | ascii, c => (0x41 ≤ c && c ≤ 0x5a) || (0x61 ≤ c && c ≤ 0x7a)
  | unicode, c => Unicode.isCased c

def anyCased : Folding → Nat → Nat → Bool
  | exact, _, _ => false
  | ascii, low, high => (low ≤ 0x5a && 0x41 ≤ high) || (low ≤ 0x7a && 0x61 ≤ high)
  | unicode, low, high => Unicode.anyCased low high

/-- The small letters that count as the same as the small letter `c`. -/
def same : Folding → Nat → List Nat
  | unicode, c => Unicode.withSiblings c
  | _, c => [c]

/-- The codes whose small letter is `c`. -/
def sources : Folding → Nat → List Nat
  | exact, c => [c]
  | ascii, c =>
    if 0x61 ≤ c && c ≤ 0x7a then [c, c - 32] else if 0x41 ≤ c && c ≤ 0x5a then [] else [c]
  | unicode, c => Unicode.lowerSources c

end Folding

/-- The last code of the basic plane.  Beyond it a set folds the character but not its own codes,
and a range also takes the capital. -/
def lastBasic : Nat := 0xffff

namespace SetItem

/-- Whether letter case matters to an item. -/
def isCased (folding : Folding) : SetItem → Bool
  | code c => lastBasic < c || folding.isCased c
  | range low high => lastBasic < high || folding.anyCased low high
  | category .. => false

/-- Whether an item holds a code as it is. -/
def holds (c : Nat) : SetItem → Bool
  | code d => c == d
  | range low high => low ≤ c && c ≤ high
  | category kind negated ascii => negated != kind.holds ascii c

/-- Whether an item holds the small letter `c`, with case ignored. -/
def holdsFolded (folding : Folding) (c : Nat) : SetItem → Bool
  | code d => if lastBasic < d then c == d else (folding.same (folding.lower d)).contains c
  | range low high =>
    ((folding.same c).flatMap folding.sources).any
        (fun d => low ≤ d && d ≤ high && d ≤ lastBasic) ||
      (lastBasic < high &&
        ((low ≤ c && c ≤ high) || (low ≤ Unicode.upper c && Unicode.upper c ≤ high)))
  | category kind negated ascii => negated != kind.holds ascii c

end SetItem

namespace CharTest

/-- The test with case counted exactly where ignoring it changes nothing. -/
def settle : CharTest → CharTest
  | literal c negated folding => literal c negated (if folding.isCased c then folding else .exact)
  | set items negated folding =>
    set items negated
      (if folding ≠ .exact ∧ items.any (·.isCased folding) then folding else .exact)
  | t => t

def holds (c : Char) : CharTest → Bool
  | any newline => newline || c != '\n'
  | literal d negated .exact => negated != (c.toNat == d)
  | literal d negated folding =>
    negated != (folding.same (folding.lower d)).contains (folding.lower c.toNat)
  | set items negated .exact => negated != items.any (·.holds c.toNat)
  | set items negated folding =>
    negated != items.any (·.holdsFolded folding (folding.lower c.toNat))

end CharTest
end Stencil.Regex
