import RobotTeam.Proofs.Matching.Support
import RobotTeam.Proofs.Organization.Listing

/-! What a mapping lists for a team it also lists for every larger team. More instances provide more of
every class, and a service that is supported stays so when nothing is taken away from any class. -/

namespace RobotTeam

namespace Allocation

variable {ω : Type} [Ontology ω] (a : Allocation) (o : ω)

theorem supported_mono {c d : Combination} (more : c.toPool.Within d.toPool) {services : List Iri}
    {service : Iri} (h : service ∈ Matcher.supported a o c services) :
    service ∈ Matcher.supported a o d services := by
  rw [mem_supported_iff] at h ⊢
  obtain ⟨known, declares, counts, served⟩ := h
  refine ⟨known, declares, counts, served.mono (fun _ => Nat.le_refl _) ?_⟩
  intro model
  rw [holds_capabilities, holds_capabilities]
  exact Count.capped_mono (TotalKey.amount_mono o more a.property .max false model)

end Allocation

namespace Organization

section Supporters

variable {ω : Type} {a : Organization ω} {c : Combination}

/-- A team that contains a listed one is listed with all services of that one, and so it stands among
the teams that support given services together. -/
theorem build_upwardClosed [Ontology ω] {o : ω} {matcher : Allocation} {pool : Pool} {settings : Settings}
    (built : build o matcher pool settings = .ok a) {d : Combination} (sorted : d.Sorted)
    (within : d.toPool.Within pool) (more : c.toPool.Within d.toPool) :
    (∀ service ∈ a.mapping.listed c, service ∈ a.mapping.listed d) ∧
    ∀ services : Names, c ∈ a.resourceSupport services → d ∈ a.resourceSupport services := by
  have listed : ∀ service ∈ a.mapping.listed c, service ∈ a.mapping.listed d := by
    intro service h
    rw [mem_listed (exact_of_build built)] at h ⊢
    exact ⟨⟨sorted, within⟩, matcher.supported_mono o more h.2⟩
  refine ⟨listed, ?_⟩
  intro services h
  have inStep := inStep_of_build built
  rw [mem_resourceSupport inStep] at h ⊢
  exact ⟨h.1, fun s hs => listed s (h.2 s hs)⟩

end Supporters

section Hoists

/-- Of three hoists two can lift, and so can all three. -/
theorem build_upwardClosed_hoists : ∃ a,
    build yard (Allocation.mk carries) (Pool.single hoist 3) { property := carries } = .ok a ∧
    Combination.copies 2 hoist ∈ a.resourceSupport (Std.ExtTreeSet.ofList [lifting]) ∧
    Combination.copies 3 hoist ∈ a.resourceSupport (Std.ExtTreeSet.ofList [lifting]) := by
  have few : ¬∃ limit, TooMany { property := carries } (Pool.single hoist 3) limit := by
    rintro ⟨limit, same, many⟩
    cases same
    revert many
    decide +kernel
  have whole := Combination.toPool_copies 3 hoist
  have part := Combination.toPool_copies 2 hoist
  have less : (Pool.single hoist 2).Within (Pool.single hoist 3) := by decide +kernel
  obtain ⟨a, built, exact⟩ := build_ok yard (Allocation.mk carries) few
  have two : Combination.copies 2 hoist ∈ a.resourceSupport (Std.ExtTreeSet.ofList [lifting]) := by
    rw [mem_resourceSupport (inStep_of_build built)]
    refine ⟨by decide +kernel, ?_⟩
    intro s hs
    obtain rfl : lifting = s := by simpa [Std.ExtTreeSet.mem_toList] using hs
    refine (mem_listed exact).mpr ⟨⟨Combination.sorted_ofList _, ?_⟩, ?_⟩
    · rwa [part]
    · refine List.mem_filter.mpr ⟨lifting_known, ?_⟩
      rw [Allocation.capabilities, part]
      decide +kernel
  refine ⟨a, built, two, ?_⟩
  have sorted : (Combination.copies 3 hoist).Sorted := Combination.sorted_ofList _
  refine (build_upwardClosed built sorted ?_ ?_).2 _ two
  · rw [whole]
    decide +kernel
  · rwa [whole, part]

end Hoists

end Organization

end RobotTeam
