import RobotTeam.Proofs.Matching.Support
import RobotTeam.Proofs.Pool.Combination
import RobotTeam.Proofs.Query.Aggregation

/-! What a pool can do, added up twice. The matcher goes through the instances of a combination and puts
down bounds, while a lookup goes through the entries of a pool and puts down restrictions, which are
merged into bounds later. Both come to the same list. -/

namespace RobotTeam.Allocation

variable {ω μ : Type} [Ontology ω] [Matcher μ ω] {o : ω} {s : Session μ} {p : Pool}

/-- The matcher's capabilities of a pool are the merged upper totals of the pool, whatever was looked up
before. -/
theorem merge_lookUp_eq_capabilities (sound : s.cache.Sound o) (zeros : p.NoZeros) (property : Iri) :
    Bound.merge (s.lookUp o ⟨p, property, .max, false⟩) =
      .ok ((Allocation.mk property).capabilities o p.toCombination) := by
  rw [Session.lookUp_eq_total sound, TotalKey.merge_total o rfl, capabilities_eq,
    Pool.toPool_toCombination zeros]

section Hoists

def lamp : Iri := ⟨"http://team#Lamp"⟩

def gear : FactBase := .ofDeclarations
  [.restriction hoist (.object carries hook 2 .max), .restriction hoist (.object carries lamp 0 .max),
    .restriction hoist ⟨carries, .ofDatatype ⟨"http://team#Weight"⟩, 7, .max⟩,
    .restriction Session.tug (.object carries hook Count.limit .exact),
    .restriction Session.tug (.object carries lamp 1 .min)]

/-- Of hooks there are no more than can be counted, and of lamps none, which leaves a bound all the same. -/
theorem merge_lookUp_eq_capabilities_hoists :
    let s : Session Allocation := .fresh ⟨carries⟩
    let pool : Pool := .ofEntries [(hoist, 2), (Session.tug, 1)]
    s.cache.Sound gear ∧ pool.NoZeros ∧
    Bound.merge (s.lookUp gear ⟨pool, carries, .max, false⟩) =
      .ok [⟨hook, 0, Count.limit⟩, ⟨lamp, 0, 0⟩] ∧
    (Allocation.mk carries).capabilities gear pool.toCombination =
      [⟨hook, 0, Count.limit⟩, ⟨lamp, 0, 0⟩] := by
  intro s pool
  have sound : s.cache.Sound gear := Cache.sound_empty gear
  have zeros : pool.NoZeros := Pool.noZeros_ofEntries _
  have merged : Bound.merge (s.lookUp gear ⟨pool, carries, .max, false⟩) =
      .ok [⟨hook, 0, Count.limit⟩, ⟨lamp, 0, 0⟩] := by decide +kernel
  have same := merge_lookUp_eq_capabilities sound zeros carries
  rw [merged, Except.ok.injEq] at same
  exact ⟨sound, zeros, merged, same.symm⟩

end Hoists

end RobotTeam.Allocation
