import Stencil.Yaml.Fault
import Stencil.Yaml.Place
import Stencil.Yaml.Token

/-! # Names, tags and directives

Anchors and aliases have names of letters, digits, hyphens and underscores.  A tag is a handle and a
suffix in which bytes may be given by hexadecimal digits.
-/
namespace Stencil.Yaml

def isNameChar (c : Char) : Bool := c.isAlphanum || c == '-' || c == '_'

def isTagChar (c : Char) : Bool :=
  c.isAlphanum || "-;/?:@&=+$,_.!~*'()[]".toList.contains c

def isHexDigit (c : Char) : Bool :=
  c.isDigit || ('a' ≤ c && c ≤ 'f') || ('A' ≤ c && c ≤ 'F')

def hexValue (ds : Text) : Nat := Numeral.positional 16 (ds.filterMap Numeral.digitValue)

def scanName (p : Place) : Except Fault (Text × Place) :=
  let name := p.rest.takeWhile isNameChar
  if name.isEmpty then .error .malformed else .ok (name, p.forward name.length)

/-- The name behind the sign of an anchor or an alias. -/
def scanReference (p : Place) : Except Fault (Text × Place) := do
  let (name, p) ← scanName p.next
  let ends := match p.rest with
    | [] => true
    | c :: _ => endsWord p.rest || "?:,]\x7d%@`".toList.contains c
  if ends then return (name, p) else throw .malformed

/-- The bytes that are given by hexadecimal digits behind percent signs. -/
def scanBytes (done : List UInt8) (p : Place) : Nat → Except Fault ((List UInt8) × Place)
  | 0 => .ok (done, p)
  | fuel + 1 =>
    match p.rest with
    | '%' :: a :: b :: _ =>
      if isHexDigit a && isHexDigit b then
        scanBytes (done ++ [UInt8.ofNat (hexValue [a, b])]) (p.forward 3) fuel
      else .error .malformed
    | '%' :: _ => .error .malformed
    | _ => .ok (done, p)

def decodeBytes (bs : List UInt8) : Except Fault Text :=
  match String.fromUTF8? ⟨bs.toArray⟩ with
  | some s => .ok s.toList
  | none => .error .malformed

def scanTagText (done : Text) (p : Place) : Nat → Except Fault (Text × Place)
  | 0 => .error .malformed
  | fuel + 1 =>
    match p.rest with
    | [] => .ok (done, p)
    | c :: _ =>
      if c = '%' then do
        let (bs, p) ← scanBytes [] p p.rest.length
        let t ← decodeBytes bs
        scanTagText (done ++ t) p fuel
      else if isTagChar c then scanTagText (done ++ [c]) p.next fuel
      else .ok (done, p)

/-- A tag or the suffix of one, which must not be empty. -/
def scanSuffix (p : Place) : Except Fault (Text × Place) := do
  let (t, p) ← scanTagText [] p (p.rest.length + 1)
  if t.isEmpty then throw .malformed else return (t, p)

/-- A handle: one sign, or a possibly empty name between two. -/
def scanHandle (p : Place) : Except Fault (Text × Place) :=
  match p.rest with
  | '!' :: rest =>
    if rest.head? = some ' ' then .ok (['!'], p.next)
    else
      let name := rest.takeWhile isNameChar
      if (rest.drop name.length).head? = some '!' then
        .ok ('!' :: name ++ ['!'], p.forward (name.length + 2))
      else .error .malformed
  | _ => .error .malformed

def scanTag (p : Place) : Except Fault (Token × Place) := do
  let rest := p.rest.drop 1
  let ((handle, suffix), p) ←
    if rest.head? = some '<' then do
      let (suffix, p) ← scanSuffix (p.forward 2)
      if p.rest.head? = some '>' then pure (((none : Option Text), suffix), p.next)
      else throw .malformed
    else if endsWord rest then pure (((none : Option Text), ['!']), p.next)
    else if (rest.takeWhile fun c => !(c == ' ' || isBreak c)).contains '!' then do
      let (handle, p) ← scanHandle p
      let (suffix, p) ← scanSuffix p
      pure ((some handle, suffix), p)
    else do
      let (suffix, p) ← scanSuffix p.next
      pure ((some ['!'], suffix), p)
  if endsName p.rest then return (.tag handle suffix, p) else throw .malformed

/-- The rest of a line that may hold nothing but a comment, and the line break. -/
def scanLineEnd (p : Place) : Except Fault Place :=
  let p := p.skipSpaces
  let p := if p.rest.head? = some '#' then p.skipLine else p
  if endsLine p.rest then .ok p.next else .error .malformed

def scanNumber (p : Place) : Except Fault (Nat × Place) :=
  let ds := p.rest.takeWhile Char.isDigit
  if ds.isEmpty then .error .malformed
  else .ok (Numeral.positional 10 (ds.filterMap Numeral.digitValue), p.forward ds.length)

def scanVersion (p : Place) : Except Fault (Directive × Place) := do
  let (major, p) ← scanNumber p.skipSpaces
  if p.rest.head? ≠ some '.' then throw .malformed
  let (_, p) ← scanNumber p.next
  if endsName p.rest then return (.version major, p) else throw .malformed

def scanTagDirective (p : Place) : Except Fault (Directive × Place) := do
  let (handle, p) ← scanHandle p.skipSpaces
  if p.rest.head? ≠ some ' ' then throw .malformed
  let (expansion, p) ← scanSuffix p.skipSpaces
  if endsName p.rest then return (.tag handle expansion, p) else throw .malformed

def scanDirective (p : Place) : Except Fault (Token × Place) := do
  let (name, p) ← scanName p.next
  if !endsName p.rest then throw .malformed
  let (d, p) ←
    if name = "YAML".toList then scanVersion p
    else if name = "TAG".toList then scanTagDirective p
    else pure (.other, p.skipLine)
  let p ← scanLineEnd p
  return (.directive d, p)

end Stencil.Yaml
