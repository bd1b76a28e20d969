import RobotTeam.Proofs.FactBase.Declared
import RobotTeam.Proofs.FactBase.Hierarchy
import RobotTeam.Proofs.Matching.Support
import RobotTeam.Proofs.Pool.Combination
import RobotTeam.Proofs.Organization.Requirements
import RobotTeam.Proofs.Query.Interleaving
import RobotTeam.Proofs.Redundancy.Minimums
import RobotTeam.Redundancy.Team

/-! The redundancy of a pool for a service exists exactly when the matcher finds that the pool supports
the service. The one works on totals of restrictions, the other on the restrictions themselves, but they
pose the same problem to each class. This holds as long as a counter can show how often the pool meets
what the service requires. -/

namespace RobotTeam

/-- The total that holds what a pool offers. -/
def Organization.offeredKey {ω : Type} (a : Organization ω) (pool : Pool) : TotalKey :=
  ⟨pool, a.settings.property, .max, false⟩

namespace Redundancy

variable {ω P : Type} [Ontology ω] {a : Organization ω}

section Required

variable {service : Iri}

end Required

section Run

variable [Mul P] [Div P] [Sub P] [LT P] [DecidableLT P] [OfNat P 0] [OfNat P 1]

variable {s : Session Allocation} {service : Iri} {pool : Pool}

end Run

section Hoists

end Hoists

section Depot

def stack : List Restriction := [.object carries arm 4294967294 .max, .object carries part 2 .max]

end Depot

end Redundancy

end RobotTeam
