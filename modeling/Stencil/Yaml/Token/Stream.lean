import Stencil.Yaml.Token.Block
import Stencil.Yaml.Token.Quoted

/-! # The tokens of a text

Outside brackets indentation opens and closes collections.  A key that nothing marks in front is
noticed at its colon: whatever could be one is remembered, for each level of brackets, as long as it
is short and on one line.
-/
namespace Stencil.Yaml

/-- A stretch that is a key if a colon follows.  At the indentation of a collection it has to be. -/
structure PossibleKey where
  level : Nat
  tokensBefore : Nat
  required : Bool
  index : Nat
  line : Nat
  column : Nat
deriving DecidableEq, Repr

/-- What has been scanned: the tokens, the last one first, and the open collections. -/
structure Scanner where
  place : Place
  tokens : List Token
  flowLevel : Nat
  indent : Int
  outerIndents : List Int
  keyAllowed : Bool
  possibleKeys : List PossibleKey
deriving DecidableEq, Repr

namespace Scanner

def start (text : Text) : Scanner := ⟨Place.ofText text, [], 0, -1, [], true, []⟩

def inFlow (s : Scanner) : Bool := s.flowLevel != 0

def emit (t : Token) (s : Scanner) : Scanner := { s with tokens := t :: s.tokens }

/-- Go to the next token.  Outside brackets a key may start on a new line. -/
def toNext (s : Scanner) : Scanner :=
  let p := s.place
  let (broke, place) := Place.skipBetween false false p.index p.line p.column p.rest
  { s with place := place, keyAllowed := s.keyAllowed || (broke && !s.inFlow) }

def keyLimit : Nat := 1024

def isTooOld (p : Place) (k : PossibleKey) : Bool := k.line != p.line || k.index + keyLimit < p.index

/-- Keep the possible keys that pass a test, unless a required one is among the others. -/
def keepKeys (test : PossibleKey → Bool) (s : Scanner) : Except Fault Scanner :=
  if s.possibleKeys.any fun k => k.required && !test k then .error .malformed
  else .ok { s with possibleKeys := s.possibleKeys.filter test }

def forgetOld (s : Scanner) : Except Fault Scanner := s.keepKeys fun k => !isTooOld s.place k

def forgetKey (s : Scanner) : Except Fault Scanner := s.keepKeys fun k => k.level != s.flowLevel

def rememberKey (s : Scanner) : Except Fault Scanner := do
  if s.keyAllowed then
    let s ← s.forgetKey
    let required := !s.inFlow && s.indent == (s.place.column : Int)
    let k : PossibleKey :=
      ⟨s.flowLevel, s.tokens.length, required, s.place.index, s.place.line, s.place.column⟩
    return { s with possibleKeys := k :: s.possibleKeys }
  else return s

/-- Close the collections that are indented further than a column. -/
def closeBeyond (column indent : Int) (tokens : List Token) : List Int → Int × List Int × List Token
  | [] => (indent, [], tokens)
  | outer :: rest =>
    if column < indent then closeBeyond column outer (.blockEnd :: tokens) rest
    else (indent, outer :: rest, tokens)

def closeTo (column : Int) (s : Scanner) : Scanner :=
  if s.inFlow then s
  else
    let (indent, outer, tokens) := closeBeyond column s.indent s.tokens s.outerIndents
    { s with indent := indent, outerIndents := outer, tokens := tokens }

/-- Open a collection at a column, unless one is open there; its first token goes behind the first
`before` tokens. -/
def openAt (column before : Nat) (t : Token) (s : Scanner) : Scanner :=
  if s.indent < column then
    let later := s.tokens.length - before
    { s with
      indent := column
      outerIndents := s.indent :: s.outerIndents
      tokens := s.tokens.take later ++ t :: s.tokens.drop later }
  else s

def openHere (t : Token) (s : Scanner) : Scanner := s.openAt s.place.column s.tokens.length t

def sign (length : Nat) (t : Token) (s : Scanner) : Scanner :=
  { (s.emit t) with place := s.place.forward length }

def take (r : Except Fault (Token × Place)) (s : Scanner) : Except Fault Scanner :=
  r.map fun (t, p) => { (s.emit t) with place := p }

def forbidKey (s : Scanner) : Scanner := { s with keyAllowed := false }

/-- A line between documents, or a directive. -/
def atMargin (s : Scanner) : Except Fault Scanner := (s.closeTo (-1)).forgetKey.map forbidKey

def openFlow (t : Token) (s : Scanner) : Except Fault Scanner := do
  let s ← s.rememberKey
  return { (s.sign 1 t) with flowLevel := s.flowLevel + 1, keyAllowed := true }

def closeFlow (t : Token) (s : Scanner) : Except Fault Scanner := do
  let s ← s.forgetKey
  if s.inFlow then return { (s.sign 1 t) with flowLevel := s.flowLevel - 1, keyAllowed := false }
  else throw .malformed

def flowEntry (s : Scanner) : Except Fault Scanner := do
  let s ← s.forgetKey
  return { (s.sign 1 .flowEntry) with keyAllowed := true }

def blockEntry (s : Scanner) : Except Fault Scanner := do
  if !s.inFlow && !s.keyAllowed then throw .malformed
  let s := if s.inFlow then s else s.openHere .blockSequenceStart
  let s ← s.forgetKey
  return { (s.sign 1 .blockEntry) with keyAllowed := true }

def key (s : Scanner) : Except Fault Scanner := do
  if !s.inFlow && !s.keyAllowed then throw .malformed
  let s := if s.inFlow then s else s.openHere .blockMappingStart
  let s ← s.forgetKey
  return { (s.sign 1 .key) with keyAllowed := !s.inFlow }

/-- A colon: what was remembered is a key, or the value belongs to a marked one. -/
def value (s : Scanner) : Except Fault Scanner := do
  match s.possibleKeys.find? (·.level == s.flowLevel) with
  | some k =>
    let s := { s with possibleKeys := s.possibleKeys.filter (·.level != s.flowLevel) }
    let later := s.tokens.length - k.tokensBefore
    let s := { s with tokens := s.tokens.take later ++ Token.key :: s.tokens.drop later }
    let s := if s.inFlow then s else s.openAt k.column k.tokensBefore .blockMappingStart
    return (s.sign 1 .value).forbidKey
  | none =>
    if !s.inFlow && !s.keyAllowed then throw .malformed
    let s := if s.inFlow then s else s.openHere .blockMappingStart
    let s ← s.forgetKey
    return { (s.sign 1 .value) with keyAllowed := !s.inFlow }

/-- An anchor, an alias, a tag or a quoted scalar, any of which may start a key. -/
def word (r : Except Fault (Token × Place)) (s : Scanner) : Except Fault Scanner := do
  (← s.rememberKey).forbidKey.take r

def blockScalar (folded : Bool) (s : Scanner) : Except Fault Scanner := do
  let s ← s.forgetKey
  let (t, p) ← scanBlock folded s.indent s.place
  return { (s.emit (.scalar t false)) with place := p, keyAllowed := true }

def quoted (double : Bool) (s : Scanner) : Except Fault Scanner :=
  s.word ((scanQuoted double [] s.place.next (s.place.rest.length + 1)).map fun (codes, p) =>
    (quotedToken codes, p))

def plain (s : Scanner) : Except Fault Scanner := do
  let s ← s.rememberKey
  let (t, broke, p) :=
    scanPlain s.inFlow s.indent [] ⟨[], false, s.place⟩ (s.place.rest.length + 1)
  return { (s.emit (.scalar t true)) with place := p, keyAllowed := broke }

/-- The next token and those that come with it, where `c` and `rest` remain. -/
def scanToken (c : Char) (rest : Text) (s : Scanner) : Except Fault Scanner :=
  let atStart := s.place.column == 0
  let apart := endsWord rest
  if c = '%' ∧ atStart then do (← s.atMargin).take (scanDirective s.place)
  else if atStart && startsWithMark "---".toList (c :: rest) then
    s.atMargin.map (·.sign 3 .documentStart)
  else if atStart && startsWithMark "...".toList (c :: rest) then
    s.atMargin.map (·.sign 3 .documentEnd)
  else if c = '[' then s.openFlow .flowSequenceStart
  else if c = '\x7b' then s.openFlow .flowMappingStart
  else if c = ']' then s.closeFlow .flowSequenceEnd
  else if c = '\x7d' then s.closeFlow .flowMappingEnd
  else if c = ',' then s.flowEntry
  else if c = '-' ∧ apart then s.blockEntry
  else if c = '?' ∧ (s.inFlow || apart) then s.key
  else if c = ':' ∧ (s.inFlow || apart) then s.value
  else if c = '*' then
    s.word ((scanReference s.place).map fun (name, p) => (.alias name, p))
  else if c = '&' then
    s.word ((scanReference s.place).map fun (name, p) => (.anchor name, p))
  else if c = '!' then s.word (scanTag s.place)
  else if c = '|' ∧ !s.inFlow then s.blockScalar false
  else if c = '>' ∧ !s.inFlow then s.blockScalar true
  else if c = '\'' then s.quoted false
  else if c = '"' then s.quoted true
  else if startsPlain s.inFlow (c :: rest) then s.plain
  else .error .malformed

/-- The scanner behind the next token and those that come with it, and whether the text is over. -/
def step (s : Scanner) : Except Fault (Bool × Scanner) := do
  let s ← s.toNext.forgetOld
  let s := s.closeTo s.place.column
  match s.place.rest with
  | [] => return (true, ← (s.closeTo (-1)).forgetKey)
  | c :: rest => return (false, ← s.scanToken c rest)

/-- The tokens that are given out before the next one is scanned: none behind which a key may begin. -/
def settled (s : Scanner) : List Token :=
  let keys := s.possibleKeys.filter fun k => !isTooOld s.place k
  s.tokens.reverse.take ((keys.map (·.tokensBefore)).foldl min s.tokens.length)

def run (s : Scanner) : Nat → Tokens
  | 0 => ⟨s.settled, some .malformed⟩
  | fuel + 1 =>
    match s.step with
    | .error f => ⟨s.settled, some f⟩
    | .ok (true, s) => ⟨s.tokens.reverse, none⟩
    | .ok (false, s) => run s fuel

end Scanner

def Tokens.ofText (text : Text) : Tokens := (Scanner.start text).run (text.length + 1)

end Stencil.Yaml
