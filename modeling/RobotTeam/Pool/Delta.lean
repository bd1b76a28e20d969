import RobotTeam.Count
import RobotTeam.QueryError

/-!
Differences between pools: a signed count for each model, zeros included.
-/

namespace RobotTeam

structure Delta where
  counts : Std.ExtTreeMap Iri Int
  deriving DecidableEq

namespace Delta

instance : EmptyCollection Delta := ⟨⟨∅⟩⟩
instance : Inhabited Delta := ⟨∅⟩

def entries (d : Delta) : List (Iri × Int) := d.counts.toList

def count (d : Delta) (model : Iri) : Int := d.counts.getD model 0

def set (d : Delta) (model : Iri) (n : Int) : Delta := ⟨d.counts.insert model n⟩

def ofPool (p : Pool) : Delta := ⟨p.counts.map fun _ n => Int.ofNat n⟩

def between (old new : Pool) : Delta :=
  old.entries.foldl (fun d e => d.set e.1 (d.count e.1 - e.2)) (ofPool new)

def isNegative (d : Delta) : Bool := d.entries.any fun e => e.2 < 0

def poolCount? (n : Int) : Option Nat :=
  if 0 ≤ n ∧ n ≤ Count.limit then some n.toNat else none

/-- The pool with these counts. The first model whose count no pool can hold is reported. -/
def toPool (d : Delta) : Except QueryError Pool :=
  d.entries.foldlM (fun p e =>
    match poolCount? e.2 with
    | some n => .ok (p.set e.1 n)
    | none => .error (.negativeCount e.1 e.2)) ∅

def render (d : Delta) : String :=
  "ResourcePoolDelta:\n" ++ String.join (d.entries.map fun e => s!"    {e.1} : {e.2}\n")

end Delta

end RobotTeam
