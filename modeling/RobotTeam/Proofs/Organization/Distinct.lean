import RobotTeam.Proofs.Organization.Listing

/-! Two combinations side by side. The pool has enough instances for both at once exactly if what they
make together is one of the combinations that it yields. -/

namespace RobotTeam

namespace Combination

variable (c d : Combination)

def join : Combination := ofList (c.models ++ d.models)

theorem sorted_join : (c.join d).Sorted := sorted_ofList _

/-- A model that both use is needed twice over. -/
theorem count_join (m : Iri) : (c.join d).toPool.count m = c.toPool.count m + d.toPool.count m := by
  rw [count_toPool, join, (ofList_perm _).count_eq, List.count_append, count_toPool, count_toPool]

end Combination

namespace Organization

variable {ω : Type} {a : Organization ω} {c d : Combination}

/-- Only the models that one of the two uses are looked at, but no other model is lacking. -/
theorem canBeDistinct_iff_within :
    a.canBeDistinct c d = true ↔ (c.join d).toPool.Within a.pool := by
  have looked : ∀ m, m ∈ c.toPool.models ++ d.toPool.models ↔ 0 < (c.join d).toPool.count m := by
    intro m
    rw [List.mem_append, c.noZeros_toPool.mem_models_iff, d.noZeros_toPool.mem_models_iff,
      Combination.count_join]
    omega
  simp only [canBeDistinct, List.all_eq_true, decide_eq_true_eq, looked, ← Combination.count_join]
  rw [Pool.within_iff]
  constructor
  · intro h m
    rcases Nat.eq_zero_or_pos ((c.join d).toPool.count m) with none | some
    · rw [none]
      exact Nat.zero_le _
    · exact h m some
  · intro h m _
    exact h m

theorem canBeDistinct_comm : a.canBeDistinct c d = a.canBeDistinct d c := by
  rw [Bool.eq_iff_iff, canBeDistinct_iff_within, canBeDistinct_iff_within, Pool.within_iff,
    Pool.within_iff]
  simp only [Combination.count_join, Nat.add_comm]

variable {μ : Type} [Ontology ω] [Matcher μ ω] {o : ω} {matcher : μ} {pool : Pool} {settings : Settings}

/-- Two combinations can be distinct if and only if both together are on record, whichever comes first
and whether or not their models belong to the pool at all. -/
theorem canBeDistinct_iff_recorded (built : build o matcher pool settings = .ok a)
    (c d : Combination) :
    (a.canBeDistinct c d = true ↔ c.join d ∈ a.mapping.combinations) ∧
    a.canBeDistinct c d = a.canBeDistinct d c := by
  have exact := exact_of_build built
  constructor
  · rw [canBeDistinct_iff_within, exact.same_pool, mem_combinations exact]
    exact (and_iff_right (c.sorted_join d)).symm
  · exact canBeDistinct_comm

section Hoists

/-- Three hoists are enough for one beside two others, and not for two beside two others. -/
theorem canBeDistinct_iff_recorded_hoists : ∃ a,
    build yard inPairs (Pool.single hoist 3) openEnded = .ok a ∧
    (Combination.copies 1 hoist).join (.copies 2 hoist) ∈ a.mapping.combinations ∧
    (Combination.copies 2 hoist).join (.copies 2 hoist) ∉ a.mapping.combinations := by
  obtain ⟨a, built, exact⟩ := exists_build yard inPairs (Pool.single hoist 3)
    (rfl : openEnded.maxCombinations = none)
  obtain ⟨three, -⟩ := canBeDistinct_iff_recorded built (.copies 1 hoist) (.copies 2 hoist)
  obtain ⟨four, -⟩ := canBeDistinct_iff_recorded built (.copies 2 hoist) (.copies 2 hoist)
  refine ⟨a, built, ?_, ?_⟩
  · rw [← three, canBeDistinct, exact.same_pool, Combination.toPool_copies, Combination.toPool_copies]
    decide +kernel
  · rw [← four, canBeDistinct, exact.same_pool, Combination.toPool_copies]
    decide +kernel

end Hoists

end Organization

end RobotTeam
