import Stencil.Text

/-! # Occurrences

The occurrences of a literal text in another, found left to right and never overlapping, and the
order in which competing occurrences are preferred: the foremost first and, of those with one
start, the longest first.
-/
namespace Stencil

/-- The stretch of a text from `start` up to `stop`, which does not belong to it. -/
structure Span (ι : Type) where
  start : ι
  stop : ι
deriving DecidableEq, Repr

namespace Span

def preferred {ι : Type} [LT ι] [DecidableLT ι] [DecidableEq ι] (a b : Span ι) : Bool :=
  decide (a.start < b.start) || (decide (a.start = b.start) && !decide (a.stop < b.stop))

/-- The pair whose lexicographic order is the order of preference. -/
def rank (s : Span Nat) : Int × Int := (s.start, -s.stop)

def sort {ι : Type} [LT ι] [DecidableLT ι] [DecidableEq ι] (spans : List (Span ι)) :
    List (Span ι) :=
  spans.mergeSort preferred

end Span

namespace Occurrence

/-- The offsets at which the needle is met in a text that starts at offset `here`, when the first
`covered` characters belong to an earlier occurrence. -/
def starts (needle : Text) (covered here : Nat) : Text → List Nat
  | [] => []
  | c :: rest =>
    match covered with
    | covered + 1 => starts needle covered (here + 1) rest
    | 0 =>
      if needle.isPrefixOf (c :: rest) then
        here :: starts needle (needle.length - 1) (here + 1) rest
      else starts needle 0 (here + 1) rest

/-- Every occurrence of the needle, each one searched for from the end of the one before; the empty
text occurs nowhere. -/
def all (needle haystack : Text) : List (Span Nat) :=
  if needle.isEmpty then []
  else (starts needle 0 0 haystack).map fun i => ⟨i, i + needle.length⟩

end Occurrence
end Stencil
