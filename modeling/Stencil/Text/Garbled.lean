import Stencil.Text.Quoted

/-! # Garbled strings

A string may hold surrogates, which are no characters.  Such a string is not a text, so it can be told
from others and shown, and nothing else.
-/
namespace Stencil.Text

/-- The codes of a string with a surrogate among them. -/
structure Garbled where
  codes : List Nat
  surrogate : codes.all (fun c => decide c.isValidChar) = false
deriving DecidableEq, Repr

/-- The text that codes stand for, or the garbled string. -/
def ofCodes (codes : List Nat) : Except Garbled Text :=
  if h : codes.all (fun c => decide c.isValidChar) = true then .ok (codes.map Char.ofNat)
  else .error ⟨codes, Bool.eq_false_iff.2 h⟩

namespace Garbled

def quote (g : Garbled) : Text :=
  let q := quoteFor ((g.codes.filter fun c => decide c.isValidChar).map Char.ofNat)
  q :: (g.codes.flatMap fun c =>
    if c.isValidChar then quoteChar q (Char.ofNat c) else '\\' :: 'u' :: hex 4 c) ++ [q]

/-- The text with marks in place of the three bytes of each surrogate. -/
def marked (g : Garbled) : Text :=
  g.codes.flatMap fun c =>
    if c.isValidChar then [Char.ofNat c] else List.replicate 3 '\ufffd'

end Garbled
end Stencil.Text
