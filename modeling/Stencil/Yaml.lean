import Stencil.Yaml.Node
import Stencil.Yaml.Scalar

/-! # YAML documents

The value that the only document of a text denotes.  Of several faults among the values the one at
the outermost collection counts, and of these the first.
-/
namespace Stencil.Yaml

/-- A fault, and how many collections further in it was found. -/
structure Finding where
  level : Nat
  fault : Fault
deriving DecidableEq, Repr

/-- A value with what was found wrong on the way to it. -/
structure Outcome (α : Type) where
  value : α
  findings : List Finding

namespace Outcome

def pure {α : Type} (a : α) : Outcome α := ⟨a, []⟩

def fail {α : Type} (a : α) (level : Nat) (fault : Fault) : Outcome α := ⟨a, [⟨level, fault⟩]⟩

def ofExcept : Except Fault Value → Outcome Value
  | .ok v => pure v
  | .error f => fail .null 0 f

def deeper {α : Type} (o : Outcome α) : Outcome α :=
  ⟨o.value, o.findings.map fun f => { f with level := f.level + 1 }⟩

def map {α β : Type} (g : α → β) (o : Outcome α) : Outcome β := ⟨g o.value, o.findings⟩

def all {α : Type} (os : List (Outcome α)) : Outcome (List α) :=
  ⟨os.map (·.value), os.flatMap (·.findings)⟩

/-- The first of the outermost faults. -/
def outermost : List Finding → Option Finding
  | [] => none
  | f :: rest =>
    match outermost rest with
    | none => some f
    | some g => if g.level < f.level then some g else some f

def toExcept {α : Type} (o : Outcome α) : Except Fault α :=
  match outermost o.findings with
  | none => .ok o.value
  | some f => .error f.fault

end Outcome

namespace Node

def tag? : Node → Option Tag
  | scalar t _ => some t
  | garbled t _ => some t
  | sequence t _ => some t
  | mapping t _ => some t
  | inside _ => none

/-- The node that an alias inside it stands for. -/
def follow (anchors : Anchors) : Node → Node
  | inside a => ((anchors.lookup a).join).getD null
  | n => n

/-- The value of a scalar with a tag, or of the default value of a mapping. -/
def scalarValue (tag : Tag) : Nat → Node → Except Fault Value
  | _, scalar _ t => tag.valueOf t
  | _, garbled _ g => tag.garbledOf g
  | fuel + 1, mapping _ entries =>
    match entries.find? fun e => e.1.tag? == some .value with
    | some e => scalarValue tag fuel e.2
    | none => .error .malformed
  | _, _ => .error .malformed

def isMerge (key : Node) : Bool := key.tag? == some .merge

/-- The entries of a mapping itself.  The sign of a default value is a text as a key. -/
def ownEntries (entries : List (Node × Node)) : List (Node × Node) :=
  (entries.filter fun e => !isMerge e.1).map fun
    | (scalar .value t, v) => (scalar .str t, v)
    | (garbled .value g, v) => (garbled .str g, v)
    | e => e

mutual

/-- The entries that a value merges into a mapping: its own if it is a mapping, and those of its items,
the last one first, if it is a sequence.  `inside` tells those of a node inside itself; it and `merged`
are told whether they are asked for an item. -/
def merged (inside : Bool → Text → Option (List (Node × Node))) (item : Bool) :
    Node → Option (List (Node × Node))
  | .mapping _ entries => do return (← mergedInto inside entries) ++ ownEntries entries
  | .sequence _ items => if item then none else mergedOfItems inside items
  | .inside a => inside item a
  | .scalar .. => none
  | .garbled .. => none

def mergedOfItems (inside : Bool → Text → Option (List (Node × Node))) :
    List Node → Option (List (Node × Node))
  | [] => some []
  | n :: rest => do
    let first ← merged inside true n
    return (← mergedOfItems inside rest) ++ first

def mergedInto (inside : Bool → Text → Option (List (Node × Node))) :
    List (Node × Node) → Option (List (Node × Node))
  | [] => some []
  | (k, v) :: rest => do
    let first ← if isMerge k then merged inside false v else some []
    return first ++ (← mergedInto inside rest)

end

/-- The entries that a node inside itself merges into a mapping, followed some number of times. -/
def mergedInside (anchors : Anchors) : Nat → Bool → Text → Option (List (Node × Node))
  | 0, _, _ => some []
  | loops + 1, item, a => merged (mergedInside anchors loops) item (((anchors.lookup a).join).getD null)

def flatten (anchors : Anchors) (entries : List (Node × Node)) : Option (List (Node × Node)) := do
  return (← mergedInto (mergedInside anchors (anchors.length + 1)) entries) ++ ownEntries entries

/-- The entries of a mapping; a collection is no key. -/
def entriesOf (build : Node → Outcome Value) (entries : List (Node × Node)) :
    Outcome (List (Value × Value)) :=
  Outcome.all (entries.map fun (k, v) =>
    let key := build k
    let value := build v
    let unfit := if key.value.canBeKey then [] else [⟨0, .malformed⟩]
    ⟨(key.value, value.value), key.findings ++ unfit ++ value.findings⟩)

/-- The entries of a mapping with those merged into it, or of another node, which has none. -/
def mappingOf (anchors : Anchors) (build : Node → Outcome Value) :
    Node → Outcome (List (Value × Value))
  | mapping _ entries =>
    match flatten anchors entries with
    | some entries => entriesOf build entries
    | none => .fail [] 0 .malformed
  | _ => .fail [] 0 .malformed

def pairsOf (anchors : Anchors) (build : Node → Outcome Value) : Node → Outcome (List Value)
  | sequence _ items =>
    Outcome.all (items.map fun item =>
      match item.follow anchors with
      | mapping _ [(k, v)] =>
        let key := build k
        let value := build v
        ⟨.pair key.value value.value, key.findings ++ value.findings⟩
      | _ => .fail .null 0 .malformed)
  | _ => .fail [] 0 .malformed

def itemsOf (build : Node → Outcome Value) : Node → Outcome (List Value)
  | sequence _ items => Outcome.all (items.map build)
  | _ => .fail [] 0 .malformed

def keysOf (entries : List (Value × Value)) : List Value :=
  match Value.ofEntries entries with
  | .mapping entries => entries.map (·.1)
  | _ => []

/-- The value of a node.  A node inside itself is followed `loops` times. -/
def build (anchors : Anchors) : Nat → Nat → Node → Outcome Value
  | 0, _, _ => .pure .null
  | fuel + 1, loops, n =>
    match n.tag?, loops with
    | none, 0 => .pure .null
    | none, loops + 1 => build anchors fuel loops (n.follow anchors)
    | some tag, loops =>
      let within := build anchors fuel loops
      match tag with
      | .seq => ((itemsOf within n).map .list).deeper
      | .map => ((mappingOf anchors within n).map .ofEntries).deeper
      | .set => ((mappingOf anchors within n).map fun es => .set (keysOf es)).deeper
      | .omap => ((pairsOf anchors within n).map .list).deeper
      | .pairs => ((pairsOf anchors within n).map .list).deeper
      | tag => .ofExcept (scalarValue tag fuel n)

end Node

/-- How often a node inside itself is followed: deeper than any setting lies. -/
def loopLimit : Nat := 6

def Document.toValue (d : Document) (size : Nat) : Except Fault Value :=
  (d.root.build d.anchors ((size + 2) * (loopLimit + 1)) loopLimit).toExcept

def isAllowed (c : Char) : Bool :=
  let n := c.toNat
  n == 0x9 || n == 0xa || (0x20 ≤ n && n ≤ 0x7e) || n == 0x85 || (0xa0 ≤ n && n ≤ 0xfffd) ||
    0x10000 ≤ n

/-- The value of the document in a text; nothing if there is none. -/
def load (text : Text) : Except Fault Value := do
  if !text.all isAllowed then throw .malformed
  let tokens := Tokens.ofText text
  match ← Document.ofTokens tokens with
  | none => return .null
  | some d => d.toValue tokens.list.length

def safeLoad : Loader := fun text => (load text).mapError Fault.toLoader

end Stencil.Yaml
