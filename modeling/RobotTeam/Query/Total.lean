import RobotTeam.Ontology
import RobotTeam.Count

/-!
Totals over a pool: for each resource, what all instances of the pool declare on it together. A total
is identified by its key, which holds everything that the total depends on beside the ontology.
-/

namespace RobotTeam

structure TotalKey where
  pool : Pool
  property : Iri
  kind : Kind
  /-- Report upper totals as lower ones: what a pool provides is what it offers at least. -/
  maxToMin : Bool
  deriving DecidableEq

namespace TotalKey

def order : TotalKey → TotalKey → Ordering :=
  compareLex (compareOn pool) (compareLex (compareOn property)
    (compareLex (compareOn kind) (compareOn maxToMin)))

instance : Std.TransCmp order :=
  inferInstanceAs (Std.TransCmp (compareLex (compareOn pool) (compareLex (compareOn property)
    (compareLex (compareOn kind) (compareOn maxToMin)))))

instance : Ord TotalKey where
  compare := order

instance : Std.TransOrd TotalKey := inferInstanceAs (Std.TransCmp order)

instance : Std.LawfulEqOrd TotalKey where
  compare_self {k} := show order k k = .eq from Std.ReflCmp.compare_self
  eq_of_compare {a b} h := by
    have h : (compare a.pool b.pool).then ((compare a.property b.property).then
        ((compare a.kind b.kind).then (compare a.maxToMin b.maxToMin))) = .eq := h
    simp only [Ordering.then_eq_eq] at h
    cases a; cases b
    simp only [TotalKey.mk.injEq]
    exact ⟨Std.LawfulEqOrd.eq_of_compare h.1, Std.LawfulEqOrd.eq_of_compare h.2.1,
      Std.LawfulEqOrd.eq_of_compare h.2.2.1, Std.LawfulEqOrd.eq_of_compare h.2.2.2⟩

def reportedKind (k : TotalKey) : Kind :=
  if k.maxToMin && k.kind == .max then .min else k.kind

/-- Adds `n` times a restriction to the totals, if it is one that counts. -/
def addRestriction (kind : Kind) (n : Nat) (sums : Std.ExtTreeMap Iri Nat) (r : Restriction) :
    Std.ExtTreeMap Iri Nat :=
  if r.isObject && r.kind.boundsAs kind then
    sums.insert r.qualification
      (Count.addCapped (sums.getD r.qualification 0) (Count.mulCapped r.cardinality n))
  else sums

def sums {ω : Type} [Ontology ω] (o : ω) (k : TotalKey) : Std.ExtTreeMap Iri Nat :=
  k.pool.entries.foldl
    (fun sums e =>
      (Ontology.restrictions o e.1 k.property none).foldl (addRestriction k.kind e.2) sums)
    ∅

def total {ω : Type} [Ontology ω] (o : ω) (k : TotalKey) : List Restriction :=
  (k.sums o).toList.map fun e => .object k.property e.1 e.2 k.reportedKind

end TotalKey

end RobotTeam
