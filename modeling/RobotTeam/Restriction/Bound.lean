import RobotTeam.Count
import RobotTeam.Restriction.Basic

/-!
Bounds: how many instances of a class are wanted or on hand, from a minimum to a maximum. Restrictions
on one class are merged by intersection, and using up instances lowers a bound.
-/

namespace RobotTeam

structure Bound where
  model : Iri
  min : Nat
  max : Nat
  deriving DecidableEq, Repr, Inhabited

namespace Bound

def unbounded : Nat := Count.limit

def isUnbounded (b : Bound) : Bool := b.max == unbounded

def isExhausted (b : Bound) : Bool := b.max == 0

/-- The bound with `n` instances fewer; the minimum never stays above the maximum. -/
def lower (b : Bound) (n : Nat) : Bound :=
  { b with min := Nat.min b.min (b.max - n), max := b.max - n }

def decrement (b : Bound) : Except QueryError Bound :=
  if b.max = 0 then .error (.boundExceeded b.model 1 0) else .ok (b.lower 1)

/-- The least and the greatest number that a restriction allows. -/
def interval (r : Restriction) : Except QueryError (Nat × Nat) := do
  let qualification ← r.expectClass
  match r.kind with
  | .min => .ok (r.cardinality, unbounded)
  | .max => .ok (0, r.cardinality)
  | .exact => .ok (r.cardinality, r.cardinality)
  | .unknown => .error (.typeMismatch (.unknownKind qualification))

abbrev Intervals := Std.ExtTreeMap Iri (Nat × Nat)

/-- Narrows the interval of a class, which is unlimited as long as nothing is known of it. -/
def narrow (known : Intervals) (model : Iri) (least most : Nat) : Intervals :=
  let (low, high) := known.getD model (0, unbounded)
  known.insert model (Nat.max low least, Nat.min high most)

def merge (restrictions : List Restriction) : Except QueryError (List Bound) := do
  let known ← restrictions.foldlM
    (fun known r => do
      let (least, most) ← interval r
      return narrow known r.qualification least most)
    (∅ : Intervals)
  return known.toList.map fun e => ⟨e.1, e.2.1, e.2.2⟩

/-- There is something to require, and every requirement asks for at least one instance. -/
def allRequired (bounds : List Bound) : Bool :=
  !bounds.isEmpty && bounds.all fun b => 0 < b.min

/-- The instances that are on hand in all. -/
def total (bounds : List Bound) : Nat := Count.sum (bounds.map Bound.max)

def render (b : Bound) : String :=
  let most := if b.isUnbounded then "inf" else s!"{b.max}"
  s!"ModelBound: '{b.model}' ({b.min}, {most})"

def renderAll (bounds : List Bound) (indent : Nat) : String :=
  let margin := "".pushn ' ' indent
  s!"{margin}ModelBound::List\n" ++ String.join (bounds.map fun b => s!"{margin}    {b.render}\n")

end Bound

end RobotTeam
