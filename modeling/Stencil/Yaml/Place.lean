import Stencil.Text

/-! # Places in a document

A document is scanned from left to right.  A place keeps what remains of the text, and the line and
the column that decide where keys and collections begin and end.
-/
namespace Stencil.Yaml

def isBreak (c : Char) : Bool := c == '\n' || c == '\x85' || c == '\u2028' || c == '\u2029'

def isSpace (c : Char) : Bool := c == ' ' || c == '\t'

/-- A mark at the start of a text that takes no column. -/
def byteOrderMark : Char := '\ufeff'

def breakText (c : Char) : Text := if c == '\n' || c == '\x85' then ['\n'] else [c]

def endsLine : Text → Bool
  | [] => true
  | c :: _ => isBreak c

/-- Whether a line is over or goes on with a space. -/
def endsName : Text → Bool
  | [] => true
  | c :: _ => c == ' ' || isBreak c

/-- Whether a line is over or goes on with a space or a tabulator. -/
def endsWord : Text → Bool
  | [] => true
  | c :: _ => isSpace c || isBreak c

/-- Whether a text starts with a mark of three characters that stands alone. -/
def startsWithMark (mark text : Text) : Bool := text.take 3 == mark && endsWord (text.drop 3)

def startsWithBoundary (text : Text) : Bool :=
  startsWithMark "---".toList text || startsWithMark "...".toList text

structure Place where
  rest : Text
  index : Nat
  line : Nat
  column : Nat
deriving DecidableEq, Repr

namespace Place

def next (p : Place) : Place :=
  match p.rest with
  | [] => p
  | c :: rest =>
    if isBreak c then ⟨rest, p.index + 1, p.line + 1, 0⟩
    else ⟨rest, p.index + 1, p.line, if c = byteOrderMark then p.column else p.column + 1⟩

def forward : Nat → Place → Place
  | 0, p => p
  | n + 1, p => forward n p.next

def skipWhile (test : Char → Bool) (p : Place) : Place := p.forward (p.rest.takeWhile test).length

def skipSpaces (p : Place) : Place := p.skipWhile (· == ' ')

def skipLine (p : Place) : Place := p.skipWhile fun c => !isBreak c

/-- The beginning of a document, behind a byte order mark. -/
def ofText : Text → Place
  | [] => ⟨[], 0, 0, 0⟩
  | c :: rest => if c = byteOrderMark then ⟨rest, 1, 0, 0⟩ else ⟨c :: rest, 0, 0, 0⟩

/-- Skip spaces, comments and line breaks.  The first component tells whether a line break was among
them. -/
def skipBetween (inComment broke : Bool) (index line column : Nat) : Text → Bool × Place
  | [] => (broke, ⟨[], index, line, column⟩)
  | c :: rest =>
    if isBreak c then skipBetween false true (index + 1) (line + 1) 0 rest
    else if inComment || c == ' ' || c == '#' then
      skipBetween (inComment || c == '#') broke (index + 1) line (column + 1) rest
    else (broke, ⟨c :: rest, index, line, column⟩)

end Place
end Stencil.Yaml
