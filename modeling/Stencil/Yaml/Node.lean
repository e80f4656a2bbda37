import Stencil.Yaml.Tag
import Stencil.Yaml.Token.Stream

/-! # Nodes

A document is a tree of scalars, sequences and mappings.  An alias stands for the node with its
anchor; one inside that very node is kept as it is, and the anchored nodes are listed beside the tree.
-/
namespace Stencil.Yaml

inductive Node
  | scalar (tag : Tag) (text : Text)
  | garbled (tag : Tag) (g : Text.Garbled)
  | sequence (tag : Tag) (items : List Node)
  | mapping (tag : Tag) (entries : List (Node × Node))
  | inside (anchor : Text)
deriving Repr, Inhabited

/-- The anchors of a document, the last one first; a node that is still open is missing. -/
abbrev Anchors := List (Text × Option Node)

structure Document where
  root : Node
  anchors : Anchors

abbrev Handles := List (Text × Text)

def Handles.default : Handles :=
  [("!".toList, "!".toList), ("!!".toList, Tag.common)]

/-- What is left of the tokens, and the anchors so far. -/
structure Rest where
  tokens : List Token
  broken : Option Fault
  anchors : Anchors

/-- The tokens that are left, unless they are broken off here. -/
def Rest.front (r : Rest) : Except Fault (List Token) :=
  match r.tokens, r.broken with
  | [], some f => .error f
  | tokens, _ => .ok tokens

namespace Node

def null : Node := .scalar .null []

structure Properties where
  anchor : Option Text
  tag : Option Text

def tagText (handles : Handles) (handle : Option Text) (suffix : Text) : Except Fault Text :=
  match handle with
  | none => .ok suffix
  | some h =>
    match handles.lookup h with
    | some expansion => .ok (expansion ++ suffix)
    | none => .error .malformed

def properties (handles : Handles) (r : Rest) : Except Fault (Properties × Rest) := do
  match ← r.front with
  | .anchor a :: rest =>
    let r := { r with tokens := rest }
    match ← r.front with
    | .tag h s :: rest =>
      return (⟨some a, some (← tagText handles h s)⟩, { r with tokens := rest })
    | _ => return (⟨some a, none⟩, r)
  | .tag h s :: rest =>
    let r := { r with tokens := rest }
    match ← r.front with
    | .anchor a :: rest =>
      return (⟨some a, some (← tagText handles h s)⟩, { r with tokens := rest })
    | _ => return (⟨none, some (← tagText handles h s)⟩, r)
  | _ => return (⟨none, none⟩, r)

/-- The tag of a node that is told by its place alone, unless it has one. -/
def tagOr (default : Tag) (tag : Option Text) : Tag :=
  match tag with
  | some t => if t = ['!'] then default else Tag.ofText t
  | none => default

/-- The tag of a scalar: a quoted one without a tag is a text. -/
def scalarTag (tag : Option Text) (text : Text) (plain : Bool) : Tag :=
  match tag with
  | none => if plain then Tag.ofPlain text else .str
  | some t => if t = ['!'] then Tag.ofPlain text else Tag.ofText t

def openAnchor (anchor : Option Text) (anchors : Anchors) : Except Fault Anchors :=
  match anchor with
  | none => .ok anchors
  | some a => if anchors.any (·.1 == a) then .error .malformed else .ok ((a, none) :: anchors)

def closeAnchor (anchor : Option Text) (n : Node) (anchors : Anchors) : Anchors :=
  match anchor with
  | none => anchors
  | some a => anchors.map fun (b, m) => if b = a then (b, some n) else (b, m)

def ofAlias (name : Text) (anchors : Anchors) : Except Fault Node :=
  match anchors.lookup name with
  | none => .error .malformed
  | some (some n) => .ok n
  | some none => .ok (.inside name)

/-- Where a node stands: in a block, in a block mapping, whose sequences need no indentation, or
inside brackets. -/
inductive Context
  | block
  | entry
  | flow
deriving DecidableEq, Repr

def isEnd (ends : List Token) : List Token → Bool
  | [] => true
  | t :: _ => ends.contains t

/-- What is left behind the comma that stands before every item but the first. -/
def flowStart (first : Bool) (r : Rest) : Except Fault Rest :=
  if first then .ok r
  else
    match r.tokens with
    | .flowEntry :: rest => .ok { r with tokens := rest }
    | _ => .error .malformed

mutual

def parse (handles : Handles) (context : Context) (r : Rest) : Nat → Except Fault (Node × Rest)
  | 0 => .error .malformed
  | fuel + 1 => do
    match ← r.front with
    | .alias name :: rest => return (← ofAlias name r.anchors, { r with tokens := rest })
    | _ =>
      let (p, r) ← properties handles r
      let _ ← r.front
      let anchors ← openAnchor p.anchor r.anchors
      let (n, r) ← parseContent handles context p { r with anchors := anchors } fuel
      return (n, { r with anchors := closeAnchor p.anchor n r.anchors })

def parseContent (handles : Handles) (context : Context) (p : Properties) (r : Rest) :
    Nat → Except Fault (Node × Rest)
  | 0 => .error .malformed
  | fuel + 1 =>
    let sequence (r : Except Fault ((List Node) × Rest)) : Except Fault (Node × Rest) :=
      r.map fun (items, r) => (.sequence (tagOr .seq p.tag) items, r)
    let mapping (r : Except Fault ((List (Node × Node)) × Rest)) : Except Fault (Node × Rest) :=
      r.map fun (entries, r) => (.mapping (tagOr .map p.tag) entries, r)
    match r.tokens, context with
    | .scalar text plain :: rest, _ =>
      .ok (.scalar (scalarTag p.tag text plain) text, { r with tokens := rest })
    | .garbled g :: rest, _ => .ok (.garbled (tagOr .str p.tag) g, { r with tokens := rest })
    | .flowSequenceStart :: rest, _ =>
      sequence (parseFlowItems handles true [] { r with tokens := rest } fuel)
    | .flowMappingStart :: rest, _ =>
      mapping (parseFlowEntries handles true [] { r with tokens := rest } fuel)
    | .blockEntry :: _, .entry => sequence (parseBlockItems handles false [] r fuel)
    | .blockSequenceStart :: rest, .block =>
      sequence (parseBlockItems handles true [] { r with tokens := rest } fuel)
    | .blockSequenceStart :: rest, .entry =>
      sequence (parseBlockItems handles true [] { r with tokens := rest } fuel)
    | .blockMappingStart :: rest, .block =>
      mapping (parseBlockEntries handles [] { r with tokens := rest } fuel)
    | .blockMappingStart :: rest, .entry =>
      mapping (parseBlockEntries handles [] { r with tokens := rest } fuel)
    | _, _ =>
      if p.anchor.isSome || p.tag.isSome then .ok (.scalar (scalarTag p.tag [] true) [], r)
      else .error .malformed

/-- A node, or nothing where the collection goes on or ends. -/
def parseOptional (handles : Handles) (context : Context) (ends : List Token) (r : Rest) :
    Nat → Except Fault (Node × Rest)
  | 0 => .error .malformed
  | fuel + 1 => do
    if isEnd ends (← r.front) then return (null, r) else parse handles context r fuel

/-- The items of a block sequence.  An unindented one ends before any other token. -/
def parseBlockItems (handles : Handles) (indented : Bool) (done : List Node) (r : Rest) :
    Nat → Except Fault ((List Node) × Rest)
  | 0 => .error .malformed
  | fuel + 1 => do
    match ← r.front with
    | .blockEntry :: rest =>
      let ends : List Token :=
        if indented then [.blockEntry, .blockEnd] else [.blockEntry, .key, .value, .blockEnd]
      let (n, r) ← parseOptional handles .block ends { r with tokens := rest } fuel
      parseBlockItems handles indented (n :: done) r fuel
    | .blockEnd :: rest =>
      return (done.reverse, if indented then { r with tokens := rest } else r)
    | _ => if indented then throw .malformed else return (done.reverse, r)

def parseBlockEntries (handles : Handles) (done : List (Node × Node)) (r : Rest) :
    Nat → Except Fault ((List (Node × Node)) × Rest)
  | 0 => .error .malformed
  | fuel + 1 => do
    match ← r.front with
    | .key :: rest =>
      let ends : List Token := [.key, .value, .blockEnd]
      let (k, r) ← parseOptional handles .entry ends { r with tokens := rest } fuel
      let (v, r) ← parseValue handles .entry ends r fuel
      parseBlockEntries handles ((k, v) :: done) r fuel
    | .blockEnd :: rest => return (done.reverse, { r with tokens := rest })
    | _ => throw .malformed

def parseValue (handles : Handles) (context : Context) (ends : List Token) (r : Rest) :
    Nat → Except Fault (Node × Rest)
  | 0 => .error .malformed
  | fuel + 1 => do
    match ← r.front with
    | .value :: rest => parseOptional handles context ends { r with tokens := rest } fuel
    | _ => return (null, r)

/-- The items of a sequence in brackets.  A marked key makes a mapping of one entry. -/
def parseFlowItems (handles : Handles) (first : Bool) (done : List Node) (r : Rest) :
    Nat → Except Fault ((List Node) × Rest)
  | 0 => .error .malformed
  | fuel + 1 => do
    match ← r.front with
    | .flowSequenceEnd :: rest => return (done.reverse, { r with tokens := rest })
    | _ =>
      let r ← flowStart first r
      let ends : List Token := [.flowEntry, .flowSequenceEnd]
      match ← r.front with
      | .flowSequenceEnd :: rest => return (done.reverse, { r with tokens := rest })
      | .key :: rest =>
        let (k, r) ← parseOptional handles .flow (.value :: ends) { r with tokens := rest } fuel
        let (v, r) ← parseValue handles .flow ends r fuel
        parseFlowItems handles false (.mapping .map [(k, v)] :: done) r fuel
      | _ =>
        let (n, r) ← parse handles .flow r fuel
        parseFlowItems handles false (n :: done) r fuel

/-- The entries of a mapping in brackets.  A node that is not marked as a key has no value. -/
def parseFlowEntries (handles : Handles) (first : Bool) (done : List (Node × Node)) (r : Rest) :
    Nat → Except Fault ((List (Node × Node)) × Rest)
  | 0 => .error .malformed
  | fuel + 1 => do
    match ← r.front with
    | .flowMappingEnd :: rest => return (done.reverse, { r with tokens := rest })
    | _ =>
      let r ← flowStart first r
      let ends : List Token := [.flowEntry, .flowMappingEnd]
      match ← r.front with
      | .flowMappingEnd :: rest => return (done.reverse, { r with tokens := rest })
      | .key :: rest =>
        let (k, r) ← parseOptional handles .flow (.value :: ends) { r with tokens := rest } fuel
        let (v, r) ← parseValue handles .flow ends r fuel
        parseFlowEntries handles false ((k, v) :: done) r fuel
      | _ =>
        let (n, r) ← parse handles .flow r fuel
        parseFlowEntries handles false ((n, null) :: done) r fuel

end

end Node

namespace Document

/-- The handles of a document that directives enter, and the tokens behind them. -/
def directives (broken : Option Fault) (seen : Bool) (handles : Handles) :
    List Token → Except Fault (Handles × List Token)
  | .directive (.version major) :: rest =>
    if seen || major != 1 then .error .malformed else directives broken true handles rest
  | .directive (.tag handle expansion) :: rest =>
    if handles.any (·.1 == handle) then .error .malformed
    else directives broken seen ((handle, expansion) :: handles) rest
  | .directive .other :: rest => directives broken seen handles rest
  | [] => broken.elim (.ok (handles, [])) .error
  | rest => .ok (handles, rest)

/-- A document with a root, behind which nothing but document ends may stand. -/
def ofRest (root : Node) (r : Rest) : Except Fault Document := do
  let r : Rest := { r with tokens := r.tokens.dropWhile (· == Token.documentEnd) }
  match ← r.front with
  | [] => return ⟨root, r.anchors⟩
  | tokens =>
    let _ ← directives r.broken false [] tokens
    throw .malformed

def ofRoot (handles : Handles) (r : Rest) : Except Fault Document := do
  let (root, r) ← Node.parse handles .block r (8 * r.tokens.length + 8)
  ofRest root r

def isOver : List Token → Bool
  | [] => true
  | .directive _ :: _ => true
  | .documentStart :: _ => true
  | .documentEnd :: _ => true
  | _ => false

def ofTokens (t : Tokens) : Except Fault (Option Document) := do
  let r : Rest := ⟨t.list, t.broken, []⟩
  match ← r.front with
  | [] => return none
  | tokens =>
    let (handles, rest) ← directives t.broken false [] tokens
    match rest with
    | .documentStart :: rest =>
      let r := { r with tokens := rest }
      if isOver (← r.front) then return some (← ofRest .null r)
      else return some (← ofRoot (handles ++ Handles.default) r)
    | _ =>
      if rest == tokens then return some (← ofRoot Handles.default r) else throw .malformed

end Document
end Stencil.Yaml
