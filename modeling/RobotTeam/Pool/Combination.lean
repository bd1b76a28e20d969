import RobotTeam.Pool.Basic

/-!
Combinations of models: a pool written out as the sorted list of its instances. Lists that were read
from a document keep their order, so only combinations that were built here are sorted.
-/

namespace RobotTeam

structure Combination where
  models : List Iri
  deriving DecidableEq, Repr, Inhabited

namespace Combination

def ofList (models : List Iri) : Combination :=
  ⟨models.mergeSort fun a b => (compare a b).isLE⟩

def ofPool (p : Pool) : Combination :=
  ofList (p.entries.flatMap fun e => List.replicate e.2 e.1)

def toPool (c : Combination) : Pool := Pool.ofModels c.models

def size (c : Combination) : Nat := c.models.length

def isEmpty (c : Combination) : Bool := c.models.isEmpty

instance : Ord Combination where
  compare := compareOn Combination.models

instance : Std.TransOrd Combination :=
  inferInstanceAs (Std.TransCmp (compareOn Combination.models))

instance : Std.LawfulEqOrd Combination where
  compare_self {c} := Std.ReflOrd.compare_self (a := c.models)
  eq_of_compare {c d} h := by
    have same : c.models = d.models := Std.LawfulEqOrd.eq_of_compare h
    cases c; cases d; cases same; rfl

def render (c : Combination) : String :=
  s!"[{Iri.localNames c.models}]"

instance : ToString Combination where
  toString := render

end Combination

namespace Pool

def toCombination (p : Pool) : Combination := Combination.ofPool p

def ofCombination (c : Combination) : Pool := c.toPool

end Pool

end RobotTeam
