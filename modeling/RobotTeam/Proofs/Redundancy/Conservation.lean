import RobotTeam.Proofs.Redundancy.FullRedundancy
import RobotTeam.Proofs.Redundancy.SingleRequirement

/-! The rounds of matching account for every instance. What was on hand of a class is what the rounds
took of it and what they left, and each round takes exactly what the requirements ask for. The counter
shows the number of the rounds as long as it can. -/

namespace RobotTeam

namespace Problem

variable {m n : ℕ} {p q : Problem m n} {tables : List (Fin m → Fin n → ℕ)}

/-- The slots lose in all what the requirements need, once for each round. -/
theorem Takes.total (h : p.Takes tables q) :
    ∑ j, q.held j + tables.length * ∑ i, p.need i = ∑ j, p.held j := by
  have met : ∀ i, ∑ j, (tables.map fun x => x i j).sum = tables.length * p.need i := h.times_solves.met
  calc ∑ j, q.held j + tables.length * ∑ i, p.need i
      = ∑ j, q.held j + ∑ i, ∑ j, (tables.map fun x => x i j).sum := by
        rw [Finset.mul_sum, Finset.sum_congr rfl fun i _ => met i]
    _ = ∑ j, (q.held j + ∑ i, (tables.map fun x => x i j).sum) := by
        rw [Finset.sum_comm, Finset.sum_add_distrib]
    _ = ∑ j, p.held j := Finset.sum_congr rfl fun j _ => h.balance j

end Problem

namespace Redundancy

open Problem

variable {ω : Type} [Ontology ω] {required available : List Bound}

section Shelf

end Shelf

end Redundancy

end RobotTeam
