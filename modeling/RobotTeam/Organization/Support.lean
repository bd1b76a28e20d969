import Std.Data.ExtTreeSet
import RobotTeam.Organization.Basic
import RobotTeam.Support

/-!
Which teams support which services: the support that several instances of one model give, the number
of instances beyond which more do not help, and the combinations that support a set of services.
-/

namespace RobotTeam.Organization

variable {ω : Type} [Ontology ω]

abbrev Names := Std.ExtTreeSet Iri

/-- How much of a qualification is provided, counting what lies below it in the hierarchy. -/
def supplied (o : ω) (qualification : Iri) (available : List Restriction) : Nat :=
  (available.filter fun r =>
      r.qualification == qualification || Ontology.isSubclass o r.qualification qualification).foldl
    (fun sum r => Count.addCapped sum r.cardinality) 0

def met (o : ω) (required available : List Restriction) : List Restriction :=
  required.filter fun r => r.cardinality ≤ supplied o r.qualification available

def judge (o : ω) (required available : List Restriction) : Support :=
  .classify (met o required available).length required.length

/-- The support that `n` instances of a model give to a service. -/
def support (a : Organization ω) (service model : Iri) (n : Nat) : Query Support := do
  let required ← a.required service
  let available ← a.available (Pool.single model n)
  return judge a.ontology required available

/-- The instances that a requirement needs if each gives `share`: at least one, and none if an
instance gives nothing. -/
def saturating (share cardinality : Nat) : Nat :=
  if share = 0 then 0 else Nat.max 1 ((cardinality + share - 1) / share)

/-- The number of instances after which further instances of the model do not help the service. -/
def saturation (a : Organization ω) (service model : Iri) : Query Nat := do
  let required ← a.required service
  let single ← a.available (Pool.single model 1)
  return required.foldl
    (fun bound r =>
      Nat.max bound (saturating (supplied a.ontology r.qualification single) r.cardinality))
    0

def saturationOfService (a : Organization ω) (service : Iri) : Query Pool := do
  let bounds ← a.pool.models.mapM fun model => do
    let bound ← a.saturation service model
    return (model, bound)
  return Pool.ofEntries bounds

def raise (p q : Pool) : Pool :=
  q.entries.foldl (fun p e => if p.count e.1 < e.2 then p.set e.1 e.2 else p) p

def saturationOfServices (a : Organization ω) (services : Names) : Query Pool :=
  services.toList.foldlM
    (fun bounds service => do
      let more ← a.saturationOfService service
      return raise bounds more)
    ∅

def supporters (a : Organization ω) (service : Iri) : Std.ExtTreeSet Combination :=
  Std.ExtTreeSet.ofList ((a.mapping.combinationsOf? service).getD [])

def resourceSupport (a : Organization ω) (services : Names) : Std.ExtTreeSet Combination :=
  match services.toList with
  | [] => ∅
  | first :: rest => rest.foldl (fun common s => common ∩ a.supporters s) (a.supporters first)

def isSupporting (a : Organization ω) (c : Combination) (services : Names) : Bool :=
  match a.mapping.functionsOf? c with
  | some functions => services.toList.all functions.contains
  | none => false

/-- Whether the pool has enough instances for both combinations at once. -/
def canBeDistinct (a : Organization ω) (c d : Combination) : Bool :=
  let p := c.toPool
  let q := d.toPool
  (p.models ++ q.models).all fun m => p.count m + q.count m ≤ a.pool.count m

end RobotTeam.Organization
