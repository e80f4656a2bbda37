import Stencil.Numeral
import Stencil.Regex.Fault
import Stencil.Regex.Tree
import Stencil.Unicode.Identifier

/-! # Reading expressions

An expression is read from left to right into pieces, which keep what the rules about repetition and
alternation ask for, and the pieces are put together to a tree.
-/
namespace Stencil.Regex

structure Flags where
  ignoreCase : Bool
  multiline : Bool
  dotAll : Bool
  verbose : Bool
  ascii : Bool
  unicode : Bool
  template : Bool
deriving DecidableEq, Repr

namespace Flags

def none : Flags := ⟨false, false, false, false, false, false, false⟩

def ofLetter? : Char → Option Flags
  | 'i' => some { none with ignoreCase := true }
  | 'm' => some { none with multiline := true }
  | 's' => some { none with dotAll := true }
  | 'x' => some { none with verbose := true }
  | 'a' => some { none with ascii := true }
  | 'u' => some { none with unicode := true }
  | 't' => some { none with template := true }
  | 'L' => some none
  | _ => .none

def isType (f : Flags) : Bool := f.ascii || f.unicode

def union (f g : Flags) : Flags :=
  ⟨f.ignoreCase || g.ignoreCase, f.multiline || g.multiline, f.dotAll || g.dotAll,
    f.verbose || g.verbose, f.ascii || g.ascii, f.unicode || g.unicode, f.template || g.template⟩

def inter (f g : Flags) : Flags :=
  ⟨f.ignoreCase && g.ignoreCase, f.multiline && g.multiline, f.dotAll && g.dotAll,
    f.verbose && g.verbose, f.ascii && g.ascii, f.unicode && g.unicode, f.template && g.template⟩

def minus (f g : Flags) : Flags :=
  ⟨f.ignoreCase && !g.ignoreCase, f.multiline && !g.multiline, f.dotAll && !g.dotAll,
    f.verbose && !g.verbose, f.ascii && !g.ascii, f.unicode && !g.unicode,
    f.template && !g.template⟩

/-- The flags inside a group that turns some on and some off.  A character type that is turned on
takes the place of the other one. -/
def within (f on off : Flags) : Flags :=
  let f := if on.isType then { f with ascii := false, unicode := false } else f
  (f.union on).minus off

def folding (f : Flags) : Folding :=
  if !f.ignoreCase then .exact else if f.ascii then .ascii else .unicode

end Flags

inductive Piece
  | test (t : CharTest)
  | anchor (a : Anchor)
  | sameAs (group : Nat) (folding : Folding) (width : Width)
  | repeated (tree : Tree) (width : Width)
  | plainGroup (inner : List Piece)
  | flagGroup (inner : List Piece)
  | other (tree : Tree) (width : Width)

namespace Piece

mutual

def tree : Piece → Tree
  | test t => .char t
  | anchor a => .anchor a
  | sameAs i folding _ => .sameAs i folding
  | repeated t _ => t
  | plainGroup inner => trees inner
  | flagGroup inner => trees inner
  | other t _ => t

def trees : List Piece → Tree
  | [] => .empty
  | [p] => tree p
  | p :: rest => .cat (tree p) (trees rest)

end

mutual

def width : Piece → Width
  | test _ => .one
  | anchor _ => .zero
  | sameAs _ _ w => w
  | repeated _ w => w
  | plainGroup inner => (sum inner).capped
  | flagGroup inner => (sum inner).capped
  | other _ w => w

def sum : List Piece → Width
  | [] => .zero
  | p :: rest => (width p).add (sum rest)

end

def totalWidth (pieces : List Piece) : Width := (sum pieces).capped

/-- The one test that a piece consists of, if it does. -/
def single? : Piece → Option CharTest
  | test t => some t
  | flagGroup [p] => single? p
  | plainGroup [p] => single? p
  | _ => none

/-- Plain groups opened up. -/
def open? : Piece → Option (List Piece)
  | plainGroup inner => some inner
  | _ => none

def opened (pieces : List Piece) : List Piece :=
  pieces.flatMap fun p => p.open?.getD [p]

def quantified (min : Nat) (max : Option Nat) (mode : Mode) (p : Piece) : Piece :=
  .repeated
    (match p.single? with
      | some t => .chars t min max mode
      | none => .loop p.tree min max mode)
    (p.width.times min max)

/-- Whether two pieces at the heads of alternatives are the same and can be taken out. -/
def sameHead : Piece → Piece → Bool
  | test t, test u => t == u
  | anchor a, anchor b => a == b
  | sameAs i _ _, sameAs j _ _ => i == j
  | _, _ => false

/-- The head that all alternatives have in common, and what remains of them. -/
def commonHead? (items : List (List Piece)) : Option (Piece × List (List Piece)) :=
  match items with
  | (p :: _) :: _ =>
    if items.all fun
      | q :: _ => p.sameHead q
      | [] => false
    then some (p, items.map List.tail) else none
  | _ => none

/-- The items of a set that a piece alone amounts to. -/
def setItems? : List Piece → Option (List SetItem)
  | [test (.literal c false _)] => some [.code c]
  | [test (.set items false _)] => some items
  | _ => none

/-- Alternatives without a common head: one set of characters if all of them are, or a branch. -/
def branch (folding : Folding) (items : List (List Piece)) : Piece :=
  match items.mapM setItems? with
  | some sets => .test (.set sets.flatten.eraseDups false folding)
  | none =>
    let widths := items.map totalWidth
    .other
      (match items.reverse.map trees with
        | [] => .empty
        | last :: before => before.foldl (fun t u => .alt u t) last)
      (match widths with
        | [] => .zero
        | w :: rest => rest.foldl Width.either w)

/-- Several alternatives, with their common beginning taken out. -/
def alternatives (folding : Folding) : Nat → List (List Piece) → List Piece
  | 0, items => [branch folding items]
  | fuel + 1, items =>
    match commonHead? items with
    | some (p, rest) => p :: alternatives folding fuel rest
    | none => [branch folding items]

end Piece

/-- What has been read and what remains.  `widths` has an entry per group, `none` while the group is
open; `limit` is the first group that a lookbehind may not refer to. -/
structure State where
  rest : Text
  position : Nat
  flags : Flags
  widths : List (Option Width)
  names : List (Text × Nat)
  limit : Option Nat
  conditions : List (Nat × Nat)

abbrev Parse := StateT State (Except Fault)

/-- The next character, or a backslash with the character behind it. -/
abbrev Token := Text

def token? : Text → Option Token
  | [] => none
  | '\\' :: c :: _ => some ['\\', c]
  | c :: _ => some [c]

namespace Parse

/-- A fault that began `back` characters before the present place. -/
def fail {α : Type} (cause : Cause) (back : Nat) : Parse α := fun s =>
  .error (.malformed cause (some (s.position - back)))

def raise {α : Type} (f : Fault) : Parse α := fun _ => .error f

def peek : Parse (Option Token) := fun s => .ok (token? s.rest, s)

def position : Parse Nat := fun s => .ok (s.position, s)

/-- Go on by `n` characters; no token may then be left that is a backslash alone. -/
def skip (n : Nat) : Parse Unit := fun s =>
  let s := { s with rest := s.rest.drop n, position := s.position + n }
  if s.rest = ['\\'] then .error (.malformed .danglingBackslash (some s.position)) else .ok ((), s)

def get : Parse (Option Token) := do
  match ← peek with
  | none => return none
  | some t =>
    skip t.length
    return some t

/-- Take the next token if it is the given character. -/
def eat (c : Char) : Parse Bool := do
  if (← peek) = some [c] then
    skip 1
    return true
  else return false

/-- At most `n` characters that satisfy `p`. -/
def getWhile (p : Char → Bool) : Nat → Parse Text
  | 0 => return []
  | n + 1 => do
    match ← peek with
    | some [c] =>
      if p c then
        skip 1
        return c :: (← getWhile p n)
      else return []
    | _ => return []

def remaining : Parse Nat := fun s => .ok (s.rest.length, s)

def untilToken (terminator : Char) (what : Text) (sofar : Text) : Nat → Parse Text
  | 0 => fail .unexpectedEnd 0
  | fuel + 1 => do
    match ← get with
    | none =>
      if sofar.isEmpty then fail (.missingName what) 0
      else fail (.unterminatedName terminator) sofar.length
    | some t =>
      if t = [terminator] then
        if sofar.isEmpty then fail (.missingName what) 1 else return sofar
      else untilToken terminator what (sofar ++ t) fuel

def getUntil (terminator : Char) (what : Text) : Parse Text := do
  untilToken terminator what [] ((← remaining) + 1)

def skipComment (start : Nat) : Nat → Parse Unit
  | 0 => fail .unexpectedEnd 0
  | fuel + 1 => do
    match ← get with
    | none => fail .unterminatedComment ((← position) - start)
    | some t => if t = [')'] then return () else skipComment start fuel

def skipLine : Nat → Parse Unit
  | 0 => return ()
  | fuel + 1 => do
    match ← get with
    | none => return ()
    | some t => if t = ['\n'] then return () else skipLine fuel

/-! ## Groups -/

def groupCount : Parse Nat := fun s => .ok (s.widths.length, s)

def closedWidth? (i : Nat) : Parse (Option Width) := fun s => .ok ((s.widths[i]?).join, s)

def openGroup (name : Option Text) : Parse Nat := do
  let i ← groupCount
  modify fun s => { s with widths := s.widths ++ [none] }
  match name with
  | none => return i
  | some n =>
    match (← StateT.get).names.lookup n with
    | some j => fail (.groupNameTaken n i j) (n.length + 1)
    | none =>
      modify fun s => { s with names := (n, i) :: s.names }
      return i

def closeGroup (i : Nat) (w : Width) : Parse Unit :=
  modify fun s => { s with widths := s.widths.set i (some w) }

/-- A lookbehind refers only to groups that were closed before it began. -/
def checkLimit (i : Nat) : Parse Unit := do
  match (← StateT.get).limit with
  | none => return ()
  | some limit =>
    if (← closedWidth? i).isNone then fail .openGroup 0
    if limit ≤ i then fail .groupOfSameLookbehind 0

/-- A reference to a group, from a place `back` characters behind its beginning. -/
def reference (flags : Flags) (i back : Nat) : Parse Piece := do
  match ← closedWidth? i with
  | none => fail .openGroup back
  | some w =>
    checkLimit i
    return .sameAs i flags.folding w

/-! ## Escapes -/

def isOctal (c : Char) : Bool := '0' ≤ c && c ≤ '7'

def isHex (c : Char) : Bool := ((Numeral.digitValue c).filter (· < 16)).isSome

def valueOf (base : Nat) (ds : Text) : Nat :=
  Numeral.positional base (ds.filterMap Numeral.digitValue)

def isAsciiLetter (c : Char) : Bool := ('a' ≤ c && c ≤ 'z') || ('A' ≤ c && c ≤ 'Z')

def controlCode? : Char → Option Nat
  | 'a' => some 7
  | 'b' => some 8
  | 'f' => some 12
  | 'n' => some 10
  | 'r' => some 13
  | 't' => some 9
  | 'v' => some 11
  | '\\' => some 0x5c
  | _ => none

def category? (ascii : Bool) : Char → Option SetItem
  | 'd' => some (.category .digit false ascii)
  | 'D' => some (.category .digit true ascii)
  | 's' => some (.category .blank false ascii)
  | 'S' => some (.category .blank true ascii)
  | 'w' => some (.category .word false ascii)
  | 'W' => some (.category .word true ascii)
  | _ => none

/-- Exactly `n` hexadecimal digits behind an escape. -/
def hexCode (c : Char) (n : Nat) : Parse (Text × Nat) := do
  let ds ← getWhile isHex n
  if ds.length ≠ n then fail (.incompleteEscape ('\\' :: c :: ds)) (ds.length + 2)
  return ('\\' :: c :: ds, valueOf 16 ds)

/-- A code given by number or by name; `none` if the escape is of another kind. -/
def numberedCode? (characterNamed : Text → Option Nat) (c : Char) : Parse (Option Nat) := do
  if c = 'x' then return some (← hexCode c 2).2
  else if c = 'u' then return some (← hexCode c 4).2
  else if c = 'U' then
    let (escape, code) ← hexCode c 8
    if 0x80000000 ≤ code then raise .codeTooLarge
    if 0x110000 ≤ code then fail (.badEscape escape) escape.length
    return some code
  else if c = 'N' then
    if !(← eat '\x7b') then fail .missingBrace 0
    let name ← getUntil '\x7d' "character name".toList
    match characterNamed name with
    | some code => return some code
    | none => fail (.unknownCharacterName name) (name.length + 4)
  else return none

def setEscape (characterNamed : Text → Option Nat) (flags : Flags) (c : Char) : Parse SetItem := do
  if let some code := controlCode? c then return .code code
  if let some item := category? flags.ascii c then return item
  if let some code ← numberedCode? characterNamed c then return .code code
  if isOctal c then
    let ds := c :: (← getWhile isOctal 2)
    let code := valueOf 8 ds
    if 0o377 < code then fail (.octalTooLarge ('\\' :: ds)) (ds.length + 1)
    return .code code
  if c.isDigit || isAsciiLetter c then fail (.badEscape ['\\', c]) 2
  return .code c.toNat

/-- A group number of one or two digits, or a code of three octal ones. -/
def digitEscape (flags : Flags) (c : Char) : Parse Piece := do
  let second ← getWhile Char.isDigit 1
  let third ←
    if isOctal c && second.any isOctal then getWhile isOctal 1 else pure []
  let ds := c :: (second ++ third)
  if third.isEmpty then
    let i := valueOf 10 ds
    if i < (← groupCount) then reference flags i (ds.length + 1)
    else fail (.noSuchGroup i) ds.length
  else
    let code := valueOf 8 ds
    if 0o377 < code then fail (.octalTooLarge ('\\' :: ds)) (ds.length + 1)
    return .test (.literal code false flags.folding)

def escape (characterNamed : Text → Option Nat) (flags : Flags) (c : Char) : Parse Piece := do
  let literal (code : Nat) : Piece := .test (.literal code false flags.folding)
  if c = 'A' then return .anchor .textStart
  if c = 'Z' then return .anchor .textEnd
  if c = 'b' then return .anchor (.boundary false flags.ascii)
  if c = 'B' then return .anchor (.boundary true flags.ascii)
  if let some item := category? flags.ascii c then return .test (.set [item] false flags.folding)
  if let some code := controlCode? c then return literal code
  if let some code ← numberedCode? characterNamed c then return literal code
  if c = '0' then
    let ds ← getWhile isOctal 2
    return literal (valueOf 8 ds)
  if c.isDigit then return ← digitEscape flags c
  if isAsciiLetter c then fail (.badEscape ['\\', c]) 2
  return literal c.toNat

/-! ## Sets -/

/-- One code or category of a set, from its token; one of two characters is an escape. -/
def setMember (characterNamed : Text → Option Nat) (flags : Flags) (t : Token) :
    Parse SetItem := do
  match t with
  | [c] => return .code c.toNat
  | [_, c] => setEscape characterNamed flags c
  | _ => return .code 0

def setMembers (characterNamed : Text → Option Nat) (flags : Flags) (start : Nat)
    (sofar : List SetItem) : Nat → Parse (List SetItem)
  | 0 => fail .unexpectedEnd 0
  | fuel + 1 => do
    match ← get with
    | none => fail .unterminatedSet ((← position) - start)
    | some this =>
      if this = [']'] && !sofar.isEmpty then return sofar
      let first ← setMember characterNamed flags this
      if !(← eat '-') then setMembers characterNamed flags start (sofar ++ [first]) fuel
      else
        match ← get with
        | none => fail .unterminatedSet ((← position) - start)
        | some that =>
          if that = [']'] then return sofar ++ [first, .code '-'.toNat]
          let last ← setMember characterNamed flags that
          match first, last with
          | .code low, .code high =>
            if high < low then fail (.badRange this that) (this.length + 1 + that.length)
            setMembers characterNamed flags start (sofar ++ [.range low high]) fuel
          | _, _ => fail (.badRange this that) (this.length + 1 + that.length)

def set (characterNamed : Text → Option Nat) (flags : Flags) : Parse Piece := do
  let start := (← position) - 1
  let negated ← eat '^'
  let items ← setMembers characterNamed flags start [] ((← remaining) + 1)
  match items.eraseDups with
  | [.code c] => return .test (.literal c negated flags.folding)
  | items => return .test (.set items negated flags.folding)

/-! ## Flags -/

def isAlphabetic (t : Token) : Bool := t.all fun c => Unicode.isLetter c.toNat

def flagsOn (on : Flags) : Nat → Char → Parse (Flags × Char)
  | 0, _ => fail .unexpectedEnd 0
  | fuel + 1, c => do
    if c = 'L' then fail .localeFlag 0
    let on := on.union ((Flags.ofLetter? c).getD .none)
    if on.ascii && on.unicode then fail .incompatibleFlags 0
    match ← get with
    | none => fail .missingFlagsEnd 0
    | some t =>
      match t with
      | [')'] => return (on, ')')
      | ['-'] => return (on, '-')
      | [':'] => return (on, ':')
      | _ =>
        match t with
        | [d] =>
          if (Flags.ofLetter? d).isSome then flagsOn on fuel d
          else fail (if isAlphabetic t then .unknownFlag else .missingFlagsEnd) t.length
        | _ => fail .missingFlagsEnd t.length

def flagsOff (off : Flags) : Nat → Char → Parse Flags
  | 0, _ => fail .unexpectedEnd 0
  | fuel + 1, c => do
    if c = 'a' ∨ c = 'u' ∨ c = 'L' then fail .typeFlagOff 0
    let off := off.union ((Flags.ofLetter? c).getD .none)
    match ← get with
    | none => fail .missingColon 0
    | some t =>
      match t with
      | [':'] => return off
      | [d] =>
        if (Flags.ofLetter? d).isSome then flagsOff off fuel d
        else fail (if isAlphabetic t then .unknownFlag else .missingColon) t.length
      | _ => fail .missingColon t.length

/-- The flags of a group: `none` if they were for the whole expression, which they now hold for. -/
def groupFlags (c : Char) : Parse (Option (Flags × Flags)) := do
  let fuel := (← remaining) + 1
  let (on, stop) ← if c = '-' then pure (Flags.none, '-') else flagsOn .none fuel c
  if stop = ')' then
    modify fun s => { s with flags := s.flags.union on }
    return none
  if on.template then fail .globalFlagOn 1
  if stop = '-' then
    match ← get with
    | none => fail .missingFlag 0
    | some t =>
      match t with
      | [d] =>
        if (Flags.ofLetter? d).isNone then
          fail (if isAlphabetic t then .unknownFlag else .missingFlag) t.length
        let off ← flagsOff .none fuel d
        if off.template then fail .globalFlagOff 1
        if on.inter off ≠ .none then fail .flagOnAndOff 1
        return some (on, off)
      | _ => fail .missingFlag t.length
  return some (on, .none)

/-! ## Repetition -/

/-- The counts of a repetition in braces, whose opening brace has been taken; `none` if the brace is
a character like any other. -/
def braceCounts : Parse (Option (Nat × Option Nat)) := do
  let start ← StateT.get
  if (← peek) = some ['\x7d'] then return none
  let fuel ← remaining
  let low ← getWhile Char.isDigit fuel
  let high ← if ← eat ',' then getWhile Char.isDigit fuel else pure low
  if !(← eat '\x7d') then
    StateT.set start
    return none
  let least ← count low
  let greatest ← count high
  match greatest with
  | some n =>
    if n < least.getD 0 then fail .leastAboveGreatest ((← position) - start.position)
  | none => pure ()
  return some (least.getD 0, greatest)
where
  count (ds : Text) : Parse (Option Nat) := do
    if ds.isEmpty then return none
    match Numeral.read 10 ds with
    | .ok n =>
      if 4294967295 ≤ n then raise .repeatTooLarge
      return some n.toNat
    | .error (.tooLong n) => raise (.numberTooLong n)
    | .error .malformed => return none

/-- The repetition of the last piece.  The quantifier began at `start`. -/
def repeatLast (start min : Nat) (max : Option Nat) (pieces : List Piece) : Parse (List Piece) := do
  match pieces with
  | [] => fail .nothingToRepeat ((← position) - start)
  | .anchor _ :: _ => fail .nothingToRepeat ((← position) - start)
  | .repeated .. :: _ => fail .multipleRepeat ((← position) - start)
  | p :: before =>
    if ← eat '?' then return p.quantified min max .lazy :: before
    else if ← eat '+' then return p.quantified min max .possessive :: before
    else return p.quantified min max .greedy :: before

/-! ## Groups and sequences -/

/-- The group that a condition names, by name or by number. -/
def conditionGroup (name : Text) : Parse Nat := do
  if Unicode.isName name then
    match (← StateT.get).names.lookup name with
    | some i => return i
    | none => fail (.unknownGroupName name) (name.length + 1)
  else
    match Numeral.read 10 name with
    | .ok (.ofNat 0) => fail .badGroupNumber (name.length + 1)
    | .ok (.ofNat i) =>
      if 1073741823 ≤ i then fail (.noSuchGroup i) (name.length + 1)
      let place := (← position) - name.length - 1
      modify fun s =>
        if (s.conditions.lookup i).isSome then s
        else { s with conditions := s.conditions ++ [(i, place)] }
      return i
    | _ => fail (.badGroupName name) (name.length + 1)

def groupName (terminator : Char) : Parse Text := do
  let name ← getUntil terminator "group name".toList
  if !Unicode.isName name then fail (.badGroupName name) (name.length + 1)
  return name

/-- What stands behind the opening of a group. -/
inductive Opening
  | comment
  | flags
  | sameAs (p : Piece)
  | ahead (negated : Bool)
  | behind (negated : Bool)
  | condition (group : Nat)
  | atomic
  | captured (name : Option Text)
  | scoped (on off : Flags)

/-- The opening of a group, whose parenthesis at `start` has been taken.  `atStart` says that flags
for the whole expression may stand here. -/
def opening (flags : Flags) (start : Nat) (atStart : Bool) : Parse Opening := do
  if !(← eat '?') then return .captured none
  match ← get with
  | none => fail .unexpectedEnd 0
  | some ['P'] =>
    if ← eat '<' then return .captured (some (← groupName '>'))
    else if ← eat '=' then
      let name ← groupName ')'
      match (← StateT.get).names.lookup name with
      | none => fail (.unknownGroupName name) (name.length + 1)
      | some i => return .sameAs (← reference flags i (name.length + 1))
    else
      match ← get with
      | none => fail .unexpectedEnd 0
      | some t => fail (.unknownExtension ('P' :: t)) (t.length + 2)
  | some [':'] => return .scoped .none .none
  | some ['#'] =>
    skipComment start ((← remaining) + 1)
    return .comment
  | some ['='] => return .ahead false
  | some ['!'] => return .ahead true
  | some ['<'] =>
    match ← get with
    | none => fail .unexpectedEnd 0
    | some ['='] => return .behind false
    | some ['!'] => return .behind true
    | some t => fail (.unknownExtension ('<' :: t)) (t.length + 2)
  | some ['('] =>
    let i ← conditionGroup (← getUntil ')' "group name".toList)
    checkLimit i
    return .condition i
  | some ['>'] => return .atomic
  | some t =>
    match t with
    | [c] =>
      if c = '-' || (Flags.ofLetter? c).isSome then
        match ← groupFlags c with
        | none =>
          if !atStart then fail .misplacedFlags ((← position) - start)
          return .flags
        | some (on, off) => return .scoped on off
      else fail (.unknownExtension t) (t.length + 1)
    | _ => fail (.unknownExtension t) (t.length + 1)

def closeParenthesis (start : Nat) : Parse Unit := do
  if !(← eat ')') then fail .unterminatedGroup ((← position) - start)

def isPatternBlank (c : Char) : Bool := c == ' ' || (9 ≤ c.toNat && c.toNat ≤ 13)

/-- What a token of a sequence is, or what begins with it. -/
inductive Item
  | nothing
  | piece (p : Piece)
  | repetition (min : Nat) (max : Option Nat)
  | group

/-- The item that begins with a character, which has been taken. -/
def characterItem (characterNamed : Text → Option Nat) (flags : Flags) (c : Char) : Parse Item := do
  if flags.verbose && isPatternBlank c then return .nothing
  else if flags.verbose && c = '#' then
    skipLine ((← remaining) + 1)
    return .nothing
  else if c = '[' then return .piece (← set characterNamed flags)
  else if c = '?' then return .repetition 0 (some 1)
  else if c = '*' then return .repetition 0 none
  else if c = '+' then return .repetition 1 none
  else if c = '\x7b' then
    match ← braceCounts with
    | none => return .piece (.test (.literal c.toNat false flags.folding))
    | some (min, max) => return .repetition min max
  else if c = '.' then return .piece (.test (.any flags.dotAll))
  else if c = '^' then return .piece (.anchor (.lineStart flags.multiline))
  else if c = '$' then return .piece (.anchor (.lineEnd flags.multiline))
  else if c = '(' then return .group
  else return .piece (.test (.literal c.toNat false flags.folding))

/-- The item that begins with a token, which has been taken; one of two characters is an escape. -/
def item (characterNamed : Text → Option Nat) (flags : Flags) (t : Token) : Parse Item := do
  match t with
  | [c] => characterItem characterNamed flags c
  | [_, c] => return .piece (← escape characterNamed flags c)
  | _ => fail .unexpectedEnd 0

/-- The pieces of a group whose parenthesis at `start` has been taken, and the flags in force behind
it.  `inner` reads alternatives and `branch` a sequence inside the group. -/
def group (flags : Flags) (start : Nat) (atStart : Bool) (inner : Flags → Parse (List Piece))
    (branch : Parse (List Piece)) : Parse (Flags × List Piece) := do
  match ← opening flags start atStart with
  | .comment => return (flags, [])
  | .flags => return ((← StateT.get).flags, [])
  | .sameAs p => return (flags, [p])
  | .ahead negated =>
    let pieces ← inner flags
    closeParenthesis start
    return (flags, [.other (.ahead negated (Piece.trees pieces)) .zero])
  | .behind negated =>
    let outer := (← StateT.get).limit
    modify fun s => { s with limit := some (outer.getD s.widths.length) }
    let pieces ← inner flags
    modify fun s => { s with limit := outer }
    closeParenthesis start
    return (flags,
      [.other (.behind negated (Piece.totalWidth pieces) (Piece.trees pieces)) .zero])
  | .condition i =>
    let yes ← branch
    let no ←
      if ← eat '|' then
        let no ← branch
        if (← peek) = some ['|'] then fail .tooManyBranches 0
        pure no
      else pure []
    closeParenthesis start
    return (flags, [.other (.ifCaptured i (Piece.trees yes) (Piece.trees no))
      ((Piece.totalWidth yes).either (Piece.totalWidth no))])
  | .atomic =>
    let pieces ← inner flags
    closeParenthesis start
    return (flags, [.other (.atomic (Piece.trees pieces)) (Piece.totalWidth pieces)])
  | .captured name =>
    let i ← openGroup name
    let pieces ← inner flags
    closeParenthesis start
    closeGroup i (Piece.totalWidth pieces)
    return (flags, [.other (.capture i (Piece.trees pieces)) (Piece.totalWidth pieces)])
  | .scoped on off =>
    let pieces ← inner (flags.within on off)
    closeParenthesis start
    return (flags, [if on = .none ∧ off = .none then .plainGroup pieces else .flagGroup pieces])

mutual

/-- Alternatives up to the end of the expression or of the group.  At the top the flags of the whole
expression are in force, which the first alternative may still change. -/
def alternatives (characterNamed : Text → Option Nat) (flags : Flags) (top : Bool)
    (done : List (List Piece)) : Nat → Parse (List Piece)
  | 0 => fail .unexpectedEnd 0
  | fuel + 1 => do
    let item ← sequence characterNamed flags (top && done.isEmpty) [] fuel
    let done := item :: done
    let inForce := (← StateT.get).flags
    let flags := if top then inForce else flags
    if ← eat '|' then alternatives characterNamed flags top done fuel
    else
      match done with
      | [item] => return item
      | _ => return Piece.alternatives flags.folding (item.length + 1) done.reverse

/-- A sequence of pieces, up to a bar, a closing parenthesis or the end.  `pieces` are those read so
far, the last one first; `first` says that the expression begins with this sequence. -/
def sequence (characterNamed : Text → Option Nat) (flags : Flags) (first : Bool)
    (pieces : List Piece) : Nat → Parse (List Piece)
  | 0 => fail .unexpectedEnd 0
  | fuel + 1 => do
    match ← peek with
    | none => return Piece.opened pieces.reverse
    | some this =>
      if this = ['|'] || this = [')'] then return Piece.opened pieces.reverse
      let start ← position
      skip this.length
      match ← item characterNamed flags this with
      | .nothing => sequence characterNamed flags first pieces fuel
      | .piece p => sequence characterNamed flags first (p :: pieces) fuel
      | .repetition min max =>
        sequence characterNamed flags first (← repeatLast start min max pieces) fuel
      | .group =>
        let (flags, read) ← group flags start (first && pieces.isEmpty)
          (fun flags => alternatives characterNamed flags false [] fuel)
          (sequence characterNamed flags false [] fuel)
        sequence characterNamed flags first (read ++ pieces) fuel

end

/-- The conditions that name a group which the expression does not have. -/
def checkConditions : Parse Unit := do
  let s ← StateT.get
  match s.conditions.find? fun (i, _) => s.widths.length ≤ i with
  | some (i, place) => raise (.malformed (.noSuchGroup i) (some place))
  | none => return ()

def expression (characterNamed : Text → Option Nat) : Parse Tree := do
  skip 0
  let pieces ← alternatives characterNamed (← StateT.get).flags true [] (2 * (← remaining) + 4)
  let flags := (← StateT.get).flags
  if flags.ascii && flags.unicode then raise .asciiAndUnicode
  if (← peek).isSome then fail .unbalanced 0
  checkConditions
  return Piece.trees pieces

end Parse

/-- What is wrong with a tree that was read: a lookbehind without a fixed length, or a repetition
where flags rule it out. -/
def Tree.fault? (template : Bool) : Tree → Option Cause
  | .cat a b => (a.fault? template).or (b.fault? template)
  | .alt a b => (a.fault? template).or (b.fault? template)
  | .capture _ t => t.fault? template
  | .atomic t => t.fault? template
  | .ahead _ t => t.fault? template
  | .behind _ w t =>
    if 4294967295 < w.low then some .longLookbehind
    else if w.low ≠ w.high then some .variableLookbehind
    else t.fault? template
  | .ifCaptured _ a b => (a.fault? template).or (b.fault? template)
  | .chars _ _ _ mode => if template then some (.noRepeatInTemplate (operator mode)) else none
  | .loop t _ _ mode =>
    if template then some (.noRepeatInTemplate (operator mode)) else t.fault? template
  | _ => none
where
  operator : Mode → Text
    | .greedy => "MAX_REPEAT".toList
    | .lazy => "MIN_REPEAT".toList
    | .possessive => "POSSESSIVE_REPEAT".toList

def parse (characterNamed : Text → Option Nat) (flags : Flags) (source : Text) :
    Except Fault Tree := do
  let (tree, s) ← Parse.expression characterNamed ⟨source, 0, flags, [none], [], none, []⟩
  match tree.fault? s.flags.template with
  | some cause => .error (.malformed cause none)
  | none => return tree.settle

end Stencil.Regex
