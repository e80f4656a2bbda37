import Stencil.Yaml.Token.Name

/-! # Block scalars

A block scalar is the indented text below its header.  The header says whether line breaks are kept
or folded, what becomes of those at the end, and how far the text is indented, if not as its first
line.
-/
namespace Stencil.Yaml

inductive Chomping
  | strip
  | clip
  | keep
deriving DecidableEq, Repr

def chompingOf? : Char → Option Chomping
  | '+' => some .keep
  | '-' => some .strip
  | _ => none

def scanIndentation (p : Place) : Except Fault ((Option Nat) × Place) :=
  match p.rest with
  | c :: _ =>
    if c = '0' then .error .malformed
    else if c.isDigit then .ok (some (c.toNat - '0'.toNat), p.next)
    else .ok (none, p)
  | [] => .ok (none, p)

def scanChomping (p : Place) : Option Chomping × Place :=
  match p.rest.head?.bind chompingOf? with
  | some chomping => (some chomping, p.next)
  | none => (none, p)

/-- The chomping and the indentation of a header, in either order. -/
def scanHeader (p : Place) : Except Fault ((Chomping × Option Nat) × Place) := do
  let ((chomping, indentation), p) ←
    match scanChomping p with
    | (some chomping, p) => do
      let (indentation, p) ← scanIndentation p
      pure ((chomping, indentation), p)
    | (none, p) => do
      let (indentation, p) ← scanIndentation p
      if indentation.isSome then
        let (chomping, p) := scanChomping p
        pure ((chomping.getD .clip, indentation), p)
      else pure ((Chomping.clip, none), p)
  if endsName p.rest then return ((chomping, indentation), p) else throw .malformed

/-- The blank lines before the text, and the widest indentation among them and of the line behind
them. -/
def scanFirstLines (done : Text) (widest : Nat) (p : Place) : Nat → Text × Nat × Place
  | 0 => (done, widest, p)
  | fuel + 1 =>
    match p.rest with
    | [] => (done, widest, p)
    | c :: _ =>
      if c = ' ' then scanFirstLines done (max widest (p.column + 1)) p.next fuel
      else if isBreak c then scanFirstLines (done ++ breakText c) widest p.next fuel
      else (done, widest, p)

def skipIndentation (indent : Nat) (p : Place) : Place :=
  p.forward ((p.rest.take (indent - p.column)).takeWhile (· == ' ')).length

/-- The blank lines at a place, and the indentation behind them. -/
def scanBlankLines (indent : Nat) (done : Text) (p : Place) : Nat → Text × Place
  | 0 => (done, p)
  | fuel + 1 =>
    let p := skipIndentation indent p
    match p.rest with
    | c :: _ =>
      if isBreak c then scanBlankLines indent (done ++ breakText c) p.next fuel else (done, p)
    | [] => (done, p)

def startsDark : Text → Bool
  | [] => true
  | c :: _ => !isSpace c

/-- The lines of a block scalar.  `done` is the text so far, `lastBreak` the break behind it and
`blank` the breaks of the blank lines that follow; both are still open. -/
def scanLines (folded : Bool) (indent : Nat) (done lastBreak blank : Text) (p : Place) :
    Nat → (Text × Text × Text) × Place
  | 0 => ((done, lastBreak, blank), p)
  | fuel + 1 =>
    if p.column = indent ∧ p.rest ≠ [] then
      let dark := startsDark p.rest
      let q := p.skipLine
      let line := p.rest.takeWhile fun c => !isBreak c
      let lineBreak := (q.rest.head?.map breakText).getD []
      let (breaks, q) := scanBlankLines indent [] q.next (q.rest.length + 1)
      let done := done ++ blank ++ line
      if q.column = indent ∧ q.rest ≠ [] then
        let joint :=
          if folded && lineBreak == ['\n'] && dark && startsDark q.rest then
            if breaks.isEmpty then [' '] else []
          else lineBreak
        scanLines folded indent (done ++ joint) lineBreak breaks q fuel
      else ((done, lineBreak, breaks), q)
    else ((done, lastBreak, blank), p)

/-- A block scalar whose sign stands at the place, inside a collection of the given indentation. -/
def scanBlock (folded : Bool) (outer : Int) (p : Place) : Except Fault (Text × Place) := do
  let ((chomping, indentation), p) ← scanHeader p.next
  let p ← scanLineEnd p
  let least := (max (outer + 1) 1).toNat
  let fuel := p.rest.length + 1
  let ((indent, blank), p) := match indentation with
    | none =>
      let (blank, widest, p) := scanFirstLines [] 0 p fuel
      ((max least widest, blank), p)
    | some n =>
      let indent := least + n - 1
      let (blank, p) := scanBlankLines indent [] p fuel
      ((indent, blank), p)
  let ((done, lastBreak, blank), p) := scanLines folded indent [] [] blank p fuel
  let text := match chomping with
    | .strip => done
    | .clip => done ++ lastBreak
    | .keep => done ++ lastBreak ++ blank
  return (text, p)

end Stencil.Yaml
