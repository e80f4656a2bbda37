import Stencil.Regex.Match
import Stencil.Regex.Parse
import Stencil.Template.Read
import Stencil.Unicode.Name

/-! # Regular expressions

An expression is compiled once and then matches beginnings of texts or whole texts.
-/
namespace Stencil

structure Regex where
  source : Text
  tree : Regex.Tree
deriving DecidableEq, Repr

namespace Regex

/-- A fault together with the expression that has it. -/
structure Error where
  source : Text
  fault : Fault
deriving DecidableEq, Repr

def Error.message (e : Error) : Text := e.fault.message e.source

def compileWith (flags : Flags) (source : Text) : Except Error Regex :=
  match parse Unicode.codeOfName? flags source with
  | .ok tree => .ok ⟨source, tree⟩
  | .error fault => .error ⟨source, fault⟩

def compile (source : Text) : Except Error Regex := compileWith .none source

/-- The length of the beginning of a text that the expression matches. -/
def matchLength (r : Regex) (text : Text) : Option Nat :=
  (r.tree.run (.ofText text) .empty fun c k => some (c, k)).map fun found =>
    text.length - found.1.rest.length

/-- Whether the expression matches the whole text. -/
def matchesAll (r : Regex) (text : Text) : Bool :=
  (r.tree.run (.ofText text) .empty fun c k => if c.rest.isEmpty then some (c, k) else none).isSome

theorem matchLength_le {r : Regex} {text : Text} {n : Nat} (h : r.matchLength text = some n) :
    n ≤ text.length := by
  obtain ⟨found, -, rfl⟩ := Option.map_eq_some_iff.1 h
  exact Nat.sub_le _ _

def toPattern (r : Regex) : Pattern := ⟨r.source, r.matchLength, matchLength_le⟩

/-- The characters that have a meaning in expressions, blanks and comment signs included. -/
def special : Text := "()[]\x7b\x7d?*+-|^$\\.&~# \t\n\r\x0b\x0c".toList

/-- An expression that matches exactly the given text. -/
def escape (text : Text) : Text :=
  text.flatMap fun c => if c ∈ special then ['\\', c] else [c]

end Regex
end Stencil
