import Std.Data.ExtTreeSet
import RobotTeam.Organization.Basic
import RobotTeam.Redundancy.Basic

/-!
Redundancy of pools for services: for one service, for services used one after another, and for
services used at the same time, which either share resources or need resources of their own.
-/

namespace RobotTeam.Redundancy

variable {ω P : Type} [Ontology ω] [Mul P] [Div P] [Sub P] [LT P] [DecidableLT P] [OfNat P 0] [OfNat P 1]

def offered (a : Organization ω) (pool : Pool) : Query (List Restriction) :=
  Query.totalOf ⟨pool, a.settings.property, .max, false⟩

def ofService (m : Scale P) (a : Organization ω) (service : Iri) (pool : Pool) : Attempt P := do
  let required ← ExceptT.lift (a.required service)
  let available ← ExceptT.lift (offered a pool)
  m.survival a.ontology required available

def ofModel (m : Scale P) (a : Organization ω) (service model : Iri) : Attempt P :=
  ofService m a service (Pool.single model 1)

def ofSequence (m : Scale P) (a : Organization ω) (services : List Iri) (pool : Pool) :
    Attempt P := do
  let each ← services.mapM fun s => ofService m a s pool
  return Survivability.serial each

def addShared (minima : Std.ExtTreeMap Iri Nat) (r : Restriction) : Std.ExtTreeMap Iri Nat :=
  minima.insert r.qualification (Nat.max (minima.getD r.qualification 0) r.cardinality)

/-- What the models of a pool require when they share: for each resource the largest minimum,
whatever the counts of the models. -/
def sharedNeeds (a : Organization ω) (required : Pool) : Query (List Restriction) := do
  let minima ← required.models.foldlM
    (fun minima model => do
      let needs ← a.required model
      return needs.foldl addShared minima)
    ∅
  return minima.toList.map fun e => .object a.settings.property e.1 e.2 .min

/-- What the models of a pool require when each needs resources of its own: minima add up. -/
def exclusiveNeeds (a : Organization ω) (required : Pool) : Query (List Restriction) :=
  Query.totalOf ⟨required, a.settings.property, .min, false⟩

def needs (a : Organization ω) (shared : Bool) (required : Pool) : Query (List Restriction) :=
  if shared then sharedNeeds a required else exclusiveNeeds a required

def ofPools (m : Scale P) (a : Organization ω) (shared : Bool) (required pool : Pool) :
    Attempt P := do
  let required ← ExceptT.lift (needs a shared required)
  let available ← ExceptT.lift (offered a pool)
  m.survival a.ontology required available

def ofServices (m : Scale P) (a : Organization ω) (shared : Bool) (services : Std.ExtTreeSet Iri)
    (pool : Pool) : Attempt P :=
  ofPools m a shared (Pool.ofModels services.toList) pool

def ofSets (m : Scale P) (a : Organization ω) (shared : Bool) (sets : List (Std.ExtTreeSet Iri))
    (pool : Pool) : Attempt P := do
  let each ← sets.mapM fun services => ofServices m a shared services pool
  return Survivability.serial each

end RobotTeam.Redundancy
