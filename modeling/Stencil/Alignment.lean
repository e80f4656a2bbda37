import Stencil.Regex

/-! # Alignment

A value is padded to a least width with a fill character on one side or on both, and the padding is
taken off again when the value is read.  Taking it off removes every fill character on a padded side,
so a value comes back if and only if it neither starts nor ends with the fill there.
-/
namespace Stencil

inductive Alignment.Kind
  | none
  | left
  | right
  | center
deriving DecidableEq, Repr

structure Alignment where
  kind : Alignment.Kind
  width : Nat
  fill : Char
deriving DecidableEq, Repr

namespace Alignment

def Kind.tag : Kind → Text
  | none => "none".toList
  | left => "left".toList
  | right => "right".toList
  | center => "center".toList

def Kind.padsStart : Kind → Bool
  | right => true
  | center => true
  | _ => false

def Kind.padsEnd : Kind → Bool
  | left => true
  | center => true
  | _ => false

def default : Alignment := ⟨.none, 0, ' '⟩

/-- How many fill characters go before and after a text of the given length.  Of an odd number the
extra one goes before a centered text if the width is odd. -/
def margins (a : Alignment) (length : Nat) : Nat × Nat :=
  let n := a.width - length
  match a.kind with
  | .none => (0, 0)
  | .left => (0, n)
  | .right => (n, 0)
  | .center =>
    let before := n / 2 + (if n % 2 = 1 ∧ a.width % 2 = 1 then 1 else 0)
    (before, n - before)

def padded (a : Alignment) (text : Text) : Text :=
  let (before, after) := a.margins text.length
  List.replicate before a.fill ++ text ++ List.replicate after a.fill

inductive Fault
  | tooWide
deriving DecidableEq, Repr

def Fault.message : Fault → Text
  | tooWide => "Python int too large to convert to C ssize_t".toList

/-- The widths that a text can be padded to lie below this one. -/
def widthLimit : Nat := Nat.pow 2 63

def pad (a : Alignment) (text : Text) : Except Fault Text :=
  if a.kind ≠ .none ∧ widthLimit ≤ a.width then .error .tooWide else .ok (a.padded text)

/-- The text without the fill characters on the padded sides. -/
def unpad (a : Alignment) (text : Text) : Text :=
  let isFill (c : Char) : Bool := c == a.fill
  let text := if a.kind.padsStart then text.dropWhile isFill else text
  if a.kind.padsEnd then (text.reverse.dropWhile isFill).reverse else text

/-- An expression for any number of fill characters. -/
def paddingExpression (a : Alignment) : Text :=
  "(?:".toList ++ Regex.escape [a.fill] ++ ")*".toList

/-- An expression for what the given one describes, with padding on the padded sides. -/
def around (a : Alignment) (expression : Text) : Text :=
  if a.kind = .none then expression
  else
    (if a.kind.padsStart then a.paddingExpression else []) ++
      "(?:".toList ++ expression ++ [')'] ++
      (if a.kind.padsEnd then a.paddingExpression else [])

end Alignment
end Stencil
