import Stencil.Yaml.Place

/-! # Plain scalars

A plain scalar has no quotes.  It ends before a comment, before a colon with a blank behind it and,
inside brackets, before a sign that belongs to them; on later lines it must be indented.
-/
namespace Stencil.Yaml

def flowSigns : Text := ",?[]\x7b\x7d".toList

/-- The length of the part of a plain scalar up to the next blank. -/
def plainLength (inFlow : Bool) : Text → Nat
  | [] => 0
  | c :: rest =>
    if isSpace c || isBreak c then 0
    else if c == ':' && (endsWord rest ||
        (inFlow && (rest.head?.any fun d => ",[]\x7b\x7d".toList.contains d))) then 0
    else if inFlow && flowSigns.contains c then 0
    else plainLength inFlow rest + 1

def startsPlain (inFlow : Bool) : Text → Bool
  | [] => false
  | c :: rest =>
    !(isSpace c || isBreak c || "-?:,[]\x7b\x7d#&*!|>'\"%@`".toList.contains c) ||
      (!endsWord rest && (c == '-' || (!inFlow && (c == '?' || c == ':'))))

/-- The text that line breaks stand for: a single one is a blank, and of several the first one is
left out. -/
def foldBreaks (first : Char) (others : Text) : Text :=
  if breakText first ≠ ['\n'] then breakText first ++ others
  else if others.isEmpty then [' ']
  else others

/-- Blanks at line starts and further line breaks inside a plain scalar.  There is no result where
a line between documents follows. -/
def plainBreaks (done : Text) (p : Place) : Nat → Option Text × Place
  | 0 => (some done, p)
  | fuel + 1 =>
    match p.rest with
    | [] => (some done, p)
    | c :: _ =>
      if c = ' ' then plainBreaks done p.next fuel
      else if isBreak c then
        let p := p.next
        if startsWithBoundary p.rest then (none, p) else plainBreaks (done ++ breakText c) p fuel
      else (some done, p)

structure PlainGap where
  text : Text
  broke : Bool
  place : Place

def plainGap (p : Place) : PlainGap :=
  let q := p.skipSpaces
  match q.rest with
  | c :: _ =>
    if isBreak c then
      let q := q.next
      if startsWithBoundary q.rest then ⟨[], true, q⟩
      else
        match plainBreaks [] q q.rest.length with
        | (none, q) => ⟨[], true, q⟩
        | (some others, q) => ⟨foldBreaks c others, true, q⟩
    else ⟨p.rest.takeWhile (· == ' '), false, q⟩
  | [] => ⟨p.rest.takeWhile (· == ' '), false, q⟩

/-- A plain scalar whose parts up to here are `done`, with `gap` before the next one.  The flag in
the result tells whether the scalar is followed by the beginning of a line. -/
def scanPlain (inFlow : Bool) (indent : Int) (done : Text) (gap : PlainGap) :
    Nat → Text × Bool × Place
  | 0 => (done, gap.broke, gap.place)
  | fuel + 1 =>
    let p := gap.place
    let n := if p.rest.head? = some '#' then 0 else plainLength inFlow p.rest
    if n = 0 then (done, gap.broke, p)
    else
      let done := done ++ gap.text ++ p.rest.take n
      let gap := plainGap (p.forward n)
      if gap.text.isEmpty || gap.place.rest.head? == some '#' ||
          (!inFlow && decide ((gap.place.column : Int) ≤ indent)) then
        (done, gap.broke, gap.place)
      else scanPlain inFlow indent done gap fuel

end Stencil.Yaml
