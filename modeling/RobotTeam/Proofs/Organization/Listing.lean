import RobotTeam.Matching.Script
import RobotTeam.Organization.Support
import RobotTeam.Proofs.FactBase.Hierarchy
import RobotTeam.Proofs.Mapping.Indices
import RobotTeam.Proofs.Organization.Build
import RobotTeam.Proofs.Query.Interleaving

/-! What a built organization has on record. Every sorted combination within the pool is listed with the
services that the matcher said it supports. Whether a combination supports given services can be looked
up from either side, in what is listed for it or among the supporters of each service. -/

namespace RobotTeam.Organization

section Listed

variable {ω μ : Type} [Ontology ω] [Matcher μ ω] {o : ω} {matcher : μ} {pool : Pool}
  {settings : Settings} {a : Organization ω}

theorem exact_of_build (built : build o matcher pool settings = .ok a) :
    Exact o matcher pool settings a := by
  by_cases many : ∃ limit, TooMany settings pool limit
  · obtain ⟨limit, hl⟩ := many
    rw [build_error o matcher hl] at built
    cases built
  · obtain ⟨b, hb, exact⟩ := build_ok o matcher many
    rw [built] at hb
    cases hb
    exact exact

theorem inStep_of_build (built : build o matcher pool settings = .ok a) : a.mapping.InStep := by
  have fits : checkSize settings pool = .ok () := by
    apply checkSize_ok
    rintro ⟨limit, hl⟩
    rw [build_error o matcher hl] at built
    cases built
  rw [build_eq o matcher fits] at built
  cases e : pool.subCombinations.foldlM
      (fun (m : Mapping) c => m.insert c (Matcher.supported matcher o c (servicesOf o settings)))
      (Mapping.empty pool) with
  | error error =>
    rw [e] at built
    cases built
  | ok m =>
    rw [e] at built
    cases built
    exact (Mapping.inStep_empty pool).foldlM_insert _ e

/-- Without a limit every pool can be built for. -/
theorem exists_build (o : ω) (matcher : μ) (pool : Pool) (unlimited : settings.maxCombinations = none) :
    ∃ a, build o matcher pool settings = .ok a ∧ Exact o matcher pool settings a := by
  apply build_ok
  rintro ⟨limit, same, -⟩
  rw [unlimited] at same
  cases same

theorem mem_listed (exact : Exact o matcher pool settings a) {c : Combination} {service : Iri} :
    service ∈ a.mapping.listed c ↔ (c.Sorted ∧ c.toPool.Within pool) ∧
      service ∈ Matcher.supported matcher o c (servicesOf o settings) := by
  rw [Mapping.listed, exact.functionsOf]
  by_cases h : c.Sorted ∧ c.toPool.Within pool
  · rw [if_pos h, Option.getD_some]
    exact ⟨fun hs => ⟨h, hs⟩, And.right⟩
  · rw [if_neg h]
    simp [h]

theorem mem_combinations (exact : Exact o matcher pool settings a) {c : Combination} :
    c ∈ a.mapping.combinations ↔ c.Sorted ∧ c.toPool.Within pool := by
  rw [Mapping.mem_combinations_iff, exact.functionsOf]
  by_cases h : c.Sorted ∧ c.toPool.Within pool
  · rw [if_pos h]
    exact iff_of_true rfl h
  · rw [if_neg h]
    exact iff_of_false Bool.false_ne_true h

end Listed

section Supporters

variable {ω : Type} {a : Organization ω} {c : Combination}

theorem mem_supporters (inStep : a.mapping.InStep) {service : Iri} :
    c ∈ a.supporters service ↔ service ∈ a.mapping.listed c := by
  rw [← inStep.mem_iff, supporters, Std.ExtTreeSet.mem_ofList, List.contains_iff_mem]
  rfl

theorem mem_foldl_inter (common : Std.ExtTreeSet Combination) (services : List Iri) :
    c ∈ services.foldl (fun common s => common ∩ a.supporters s) common ↔
      c ∈ common ∧ ∀ s ∈ services, c ∈ a.supporters s := by
  induction services generalizing common with
  | nil => simp
  | cons s rest ih =>
    rw [List.foldl_cons, ih, Std.ExtTreeSet.mem_inter_iff, List.forall_mem_cons, and_assoc]

theorem mem_resourceSupport (inStep : a.mapping.InStep) {services : Names} :
    c ∈ a.resourceSupport services ↔
      services.toList ≠ [] ∧ ∀ s ∈ services.toList, s ∈ a.mapping.listed c := by
  unfold resourceSupport
  cases services.toList with
  | nil => simp
  | cons first rest =>
    simp only [mem_foldl_inter, mem_supporters inStep, List.forall_mem_cons, ne_eq, reduceCtorEq,
      not_false_eq_true, true_and]

theorem isSupporting_iff {services : Names} : a.isSupporting c services = true ↔
    c ∈ a.mapping.combinations ∧ ∀ s ∈ services, s ∈ a.mapping.listed c := by
  rw [Mapping.mem_combinations_iff]
  unfold isSupporting Mapping.listed
  cases a.mapping.functionsOf? c with
  | none => simp
  | some functions => simp [Std.ExtTreeSet.mem_toList]

/-- It takes nothing but that the two directions of the mapping are in step. -/
theorem mem_resourceSupport_iff_isSupporting (inStep : a.mapping.InStep) {services : Names}
    (some : services ≠ ∅) : c ∈ a.resourceSupport services ↔ a.isSupporting c services = true := by
  have known : services.toList ≠ [] := by
    intro none
    apply some
    rw [← Std.ExtTreeSet.isEmpty_iff, ← Std.ExtTreeSet.isEmpty_toList, none]
    rfl
  rw [mem_resourceSupport inStep, and_iff_right known, isSupporting_iff]
  simp only [Std.ExtTreeSet.mem_toList]
  constructor
  · intro all
    obtain ⟨first, hf⟩ := List.exists_mem_of_ne_nil _ known
    have listed := all first (Std.ExtTreeSet.mem_toList.mp hf)
    exact ⟨Mapping.mem_combinations_of_listed listed, all⟩
  · exact And.right

/-- Both sides tell the same of services and combinations, and what they tell is what the matcher said
when the organization was built. Only for no services at all they differ: every combination on record
supports these, but none is found. -/
theorem resourceSupport_iff_isSupporting {μ : Type} [Ontology ω] [Matcher μ ω] {o : ω} {matcher : μ}
    {pool : Pool} {settings : Settings} (built : build o matcher pool settings = .ok a)
    (services : Names) (c : Combination) :
    (services ≠ ∅ → (c ∈ a.resourceSupport services ↔ a.isSupporting c services = true)) ∧
    (a.isSupporting c services = true ↔ (c.Sorted ∧ c.toPool.Within pool) ∧
      ∀ s ∈ services, s ∈ Matcher.supported matcher o c (servicesOf o settings)) ∧
    c ∉ a.resourceSupport ∅ := by
  have exact := exact_of_build built
  have inStep := inStep_of_build built
  refine ⟨mem_resourceSupport_iff_isSupporting inStep, ?_, ?_⟩
  · rw [isSupporting_iff, mem_combinations exact]
    apply and_congr_right
    intro recorded
    simp only [mem_listed exact, and_iff_right recorded]
  · simp [mem_resourceSupport inStep]

end Supporters

section Hoists

def yard : FactBase := hoists.addSuperclass lifting Vocabulary.service

theorem lifting_known : lifting ∈ servicesOf yard { property := carries } := by
  have declared : lifting ∈ yard.classes ∧ Vocabulary.service ∈ yard.above lifting := by decide +kernel
  exact FactBase.mem_subclasses.mpr
    ⟨declared.1, by decide, FactBase.isSubclass_of_above declared.2⟩

def inPairs : Script := ⟨[(lifting, Pool.single hoist 2)], []⟩

def openEnded : Settings := { property := carries, maxCombinations := none }

/-- Of three hoists two are found to lift, and one is not. -/
theorem resourceSupport_iff_isSupporting_hoists : ∃ a,
    build yard inPairs (Pool.single hoist 3) openEnded = .ok a ∧
    ({lifting} : Names) ≠ ∅ ∧
    Combination.copies 2 hoist ∈ a.resourceSupport {lifting} ∧
    Combination.copies 1 hoist ∉ a.resourceSupport {lifting} := by
  obtain ⟨a, built, -⟩ := exists_build yard inPairs (Pool.single hoist 3)
    (rfl : openEnded.maxCombinations = none)
  have some : ({lifting} : Names) ≠ ∅ := by decide +kernel
  obtain ⟨agree, supporting, -⟩ := resourceSupport_iff_isSupporting built {lifting} (.copies 2 hoist)
  obtain ⟨agree', supporting', -⟩ := resourceSupport_iff_isSupporting built {lifting} (.copies 1 hoist)
  refine ⟨a, built, some, ?_, ?_⟩
  · rw [agree some, supporting]
    refine ⟨⟨Combination.sorted_ofList _, ?_⟩, ?_⟩
    · rw [Combination.toPool_copies]
      decide +kernel
    · intro s hs
      obtain rfl : lifting = s := by simpa using hs
      refine List.mem_filter.mpr ⟨lifting_known, ?_⟩
      rw [Combination.toPool_copies]
      decide +kernel
  · rw [agree' some, supporting']
    rintro ⟨-, all⟩
    have one := all lifting (by simp)
    have enough := (List.mem_filter.mp one).2
    rw [Combination.toPool_copies] at enough
    revert enough
    decide +kernel

end Hoists

end RobotTeam.Organization
