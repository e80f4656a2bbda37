import Stencil.Definition

/-! # Records

An alignment, a format and a definition are records of attributes.  Whether an assignment changes a
record is up to the policy of its class.
-/
namespace Stencil

structure Record where
  policy : Policy
  attributes : List (Text × Value)
deriving Repr

namespace Record

inductive Fault
  | problem (p : Problem)
  | noField (name : Text)
deriving DecidableEq, Repr

/-- Whether a name is one of attributes.  What is put under another name stays beside the record. -/
def isPublic (name : Text) : Bool := name.head? != some '_'

/-- The record with a value under a name, which no check looks at. -/
def assign (r : Record) (name : Text) (v : Value) : Except Fault Record :=
  if !isPublic name then .ok r
  else if r.policy.frozen then .error (.problem ⟨[.name name], .frozen⟩)
  else if r.attributes.any (·.1 == name) then
    .ok { r with attributes := r.attributes.map fun a => if a.1 = name then (name, v) else a }
  else .error (.noField name)

def assignAll (r : Record) (changes : List (Text × Value)) : Record :=
  changes.foldl (fun r change => (r.assign change.1 change.2).toOption.getD r) r

/-- A record that no assignment changes, as each one to an attribute is refused. -/
structure Fixed (r : Record) : Prop where
  refused : ∀ name v, isPublic name = true →
    r.assign name v = .error (.problem ⟨[.name name], .frozen⟩)
  unchanged : ∀ changes, r.assignAll changes = r

variable {r : Record}

theorem assign_of_frozen (h : r.policy.frozen = true) {name : Text} (hname : isPublic name = true)
    (v : Value) : r.assign name v = .error (.problem ⟨[.name name], .frozen⟩) := by
  simp [assign, hname, h]

theorem getD_assign_of_frozen (h : r.policy.frozen = true) (name : Text) (v : Value) :
    (r.assign name v).toOption.getD r = r := by
  cases hname : isPublic name with
  | true =>
    rw [assign_of_frozen h hname]
    rfl
  | false =>
    rw [assign, hname]
    rfl

theorem assignAll_of_frozen (h : r.policy.frozen = true) (changes : List (Text × Value)) :
    r.assignAll changes = r := by
  induction changes with
  | nil => rfl
  | cons change changes ih =>
    rw [assignAll, List.foldl_cons, getD_assign_of_frozen h]
    exact ih

/-- An assignment to a record that is not frozen is carried out or fails otherwise. -/
theorem assign_ne_of_not_frozen (h : r.policy.frozen = false) (name : Text) (v : Value) (p : Problem) :
    r.assign name v ≠ .error (.problem p) := by
  rw [assign, h, if_neg Bool.false_ne_true]
  split
  · simp
  · split <;> simp

theorem fixed_iff_frozen : r.Fixed ↔ r.policy.frozen = true := by
  constructor
  · intro hfixed
    cases h : r.policy.frozen with
    | true => rfl
    | false => exact absurd (hfixed.refused ['x'] .null rfl) (assign_ne_of_not_frozen h _ _ _)
  · intro h
    exact ⟨fun name v hname => assign_of_frozen h hname v, assignAll_of_frozen h⟩

end Record

def Alignment.record (a : Alignment) : Record :=
  ⟨policy, [("kind".toList, .object (.alignmentKind a.kind)), ("width".toList, .int a.width),
    ("fill".toList, .text [a.fill])]⟩

/-- The attributes that only formats of one kind have. -/
def Format.Kind.settings : Format.Kind → List (Text × Value)
  | integer base => [("base".toList, .int base)]
  | real digits exponential =>
    [("digits".toList, .int digits), ("exponential_notation".toList, .bool exponential)]
  | text regex => [("regex".toList, .text regex.source)]

def Format.record (f : Format) : Record :=
  ⟨policy, ("alignment".toList, .object (.alignment f.alignment)) ::
    ("kind".toList, .text f.kind.tag) :: f.kind.settings⟩

def Definition.record (d : Definition) : Record :=
  ⟨policy, [("template".toList, .text d.template),
    ("targets".toList, .mapping (d.targets.map fun (name, f) => (.text name, .object (.format f))))]⟩

end Stencil
