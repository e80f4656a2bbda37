import Stencil.Yaml.Token.Name
import Stencil.Yaml.Token.Plain

/-! # Quoted scalars

Between single quotes a doubled quote is one; between double quotes a backslash starts an escape.  A
line break is folded as in plain scalars, and one that a backslash precedes is left out.
-/
namespace Stencil.Yaml

/-- The character that a letter behind a backslash stands for. -/
def escapes : List (Char × Char) := [
  ('0', '\x00'), ('a', '\x07'), ('b', '\x08'), ('t', '\t'), ('\t', '\t'), ('n', '\n'),
  ('v', '\x0b'), ('f', '\x0c'), ('r', '\r'), ('e', '\x1b'), (' ', ' '), ('"', '"'), ('\\', '\\'),
  ('/', '/'), ('N', '\x85'), ('_', '\xa0'), ('L', '\u2028'), ('P', '\u2029')]

def codeLengths : List (Char × Nat) := [('x', 2), ('u', 4), ('U', 8)]

/-- The code that an escape gives, which may be that of a surrogate. -/
def checkCode (n : Nat) : Except Fault Nat :=
  if Nat.pow 2 31 ≤ n then .error .codeTooLarge
  else if 0x110000 ≤ n then .error .noSuchCode
  else .ok n

def codesOf (t : Text) : List Nat := t.map Char.toNat

def quotedBreaks (done : Text) (p : Place) : Nat → Except Fault (Text × Place)
  | 0 => .error .malformed
  | fuel + 1 =>
    if startsWithBoundary p.rest then .error .malformed
    else
      let p := p.skipWhile isSpace
      match p.rest with
      | c :: _ =>
        if isBreak c then quotedBreaks (done ++ breakText c) p.next fuel else .ok (done, p)
      | [] => .ok (done, p)

def quotedGap (p : Place) : Except Fault (Text × Place) :=
  let blanks := p.rest.takeWhile isSpace
  let p := p.forward blanks.length
  match p.rest with
  | [] => .error .malformed
  | c :: _ =>
    if isBreak c then
      (quotedBreaks [] p.next (p.rest.length + 1)).map fun (others, p) => (foldBreaks c others, p)
    else .ok (blanks, p)

/-- What a backslash and the characters behind it stand for; the place is behind the backslash. -/
def scanEscape (p : Place) : Except Fault (List Nat × Place) :=
  match p.rest with
  | [] => .error .malformed
  | c :: rest =>
    match escapes.lookup c, codeLengths.lookup c with
    | some d, _ => .ok ([d.toNat], p.next)
    | none, some n =>
      let ds := rest.take n
      if ds.length = n && ds.all isHexDigit then
        (checkCode (hexValue ds)).map fun d => ([d], p.forward (n + 1))
      else .error .malformed
    | none, none =>
      if isBreak c then
        (quotedBreaks [] p.next (p.rest.length + 1)).map fun (t, p) => (codesOf t, p)
      else .error .malformed

/-- The rest of a quoted scalar; `double` tells which quotes it has. -/
def scanQuoted (double : Bool) (done : List Nat) (p : Place) : Nat → Except Fault (List Nat × Place)
  | 0 => .error .malformed
  | fuel + 1 =>
    match p.rest with
    | [] => .error .malformed
    | c :: rest =>
      if isSpace c || isBreak c then do
        let (t, p) ← quotedGap p
        scanQuoted double (done ++ codesOf t) p fuel
      else if c = '\'' && !double then
        if rest.head? = some '\'' then scanQuoted double (done ++ [c.toNat]) (p.forward 2) fuel
        else .ok (done, p.next)
      else if c = '"' && double then .ok (done, p.next)
      else if c = '\\' && double then do
        let (codes, p) ← scanEscape p.next
        scanQuoted double (done ++ codes) p fuel
      else scanQuoted double (done ++ [c.toNat]) p.next fuel

def quotedToken (codes : List Nat) : Token :=
  match Text.ofCodes codes with
  | .ok t => .scalar t false
  | .error g => .garbled g

end Stencil.Yaml
