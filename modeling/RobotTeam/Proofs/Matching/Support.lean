import RobotTeam.Proofs.Matching.Classes
import RobotTeam.Proofs.Query.TotalBounds

/-! When a combination supports a service: the service has restrictions, all of them count, and no
group of classes asks for more than the instances of the combination provide at or below its members. -/

namespace RobotTeam

open Redundancy

variable {ω : Type} [Ontology ω]

/-- The classes need no more than is on hand, however they are grouped. -/
def Served (o : ω) (restrictions : List Restriction) (onHand : List Bound) : Prop :=
  ∀ group : Finset Iri, ∑ c ∈ group, Bound.lowest restrictions c ≤ picked (below o group) onHand

namespace Served

variable {o : ω} {restrictions : List Restriction} {onHand : List Bound}

theorem single (h : Served o restrictions onHand) (q : Iri) :
    Bound.lowest restrictions q ≤ picked (fits o q) onHand := by
  have one : below o {q} = fits o q := by
    funext c
    simp [below]
  have enough := h {q}
  rwa [Finset.sum_singleton, one] at enough

theorem mono {fewer : List Restriction} {more : List Bound} (h : Served o restrictions onHand)
    (less : ∀ c, Bound.lowest fewer c ≤ Bound.lowest restrictions c)
    (grown : ∀ c, Bound.holds onHand c ≤ Bound.holds more c) : Served o fewer more :=
  fun group => (Finset.sum_le_sum fun c _ => less c).trans ((h group).trans (picked_mono _ grown))

theorem of_holds (reflexive : ∀ c, Ontology.isSubclass o c c = true)
    (h : ∀ c, Bound.lowest restrictions c ≤ Bound.holds onHand c) : Served o restrictions onHand := by
  intro group
  have all : ∀ b ∈ onHand, b.model ∈ (onHand.map Bound.model).toFinset ∪ group := by
    intro b hb
    rw [Finset.mem_union, List.mem_toFinset]
    exact Or.inl (List.mem_map_of_mem hb)
  rw [picked_eq_sum_holds _ onHand all]
  refine (Finset.sum_le_sum fun c _ => h c).trans (Finset.sum_le_sum_of_subset ?_)
  intro c hc
  rw [Finset.mem_filter, Finset.mem_union]
  exact ⟨Or.inr hc, decide_eq_true ⟨c, hc, reflexive c⟩⟩

/-- Where nothing on hand is contested, it is enough that every class is served on its own. -/
theorem of_single (apart : ∀ b ∈ onHand, ∀ p q, 0 < Bound.lowest restrictions p →
      0 < Bound.lowest restrictions q → fits o p b.model = true → fits o q b.model = true → p = q)
    (h : ∀ q, Bound.lowest restrictions q ≤ picked (fits o q) onHand) :
    Served o restrictions onHand := by
  intro group
  have asking : ∑ c ∈ group, Bound.lowest restrictions c =
      ∑ c ∈ group with 0 < Bound.lowest restrictions c, Bound.lowest restrictions c := by
    refine (Finset.sum_filter_of_ne fun c _ hc => ?_).symm
    exact Nat.pos_of_ne_zero hc
  rw [asking]
  refine (Finset.sum_le_sum fun c _ => h c).trans ((sum_picked_le o _ ?_).trans (picked_le ?_ _))
  · intro b hb p hp q hq
    exact apart b hb p q (Finset.mem_filter.mp hp).2 (Finset.mem_filter.mp hq).2
  · intro c hc
    obtain ⟨q, hq, fit⟩ := of_decide_eq_true hc
    exact decide_eq_true ⟨q, (Finset.mem_filter.mp hq).1, fit⟩

end Served

namespace Allocation

variable (a : Allocation) (o : ω)

theorem capabilities_eq (c : Combination) :
    a.capabilities o c = TotalKey.bounds o ⟨c.toPool, a.property, .max, false⟩ := rfl

theorem holds_capabilities (c : Combination) (model : Iri) :
    Bound.holds (a.capabilities o c) model =
      Count.capped (TotalKey.amount o ⟨c.toPool, a.property, .max, false⟩ model) := by
  rw [capabilities_eq, TotalKey.holds_bounds]

theorem supports_iff {onHand : List Bound} {service : Iri} : a.supports o onHand service = true ↔
    Ontology.restrictions o service a.property none ≠ [] ∧
      (∀ r ∈ Ontology.restrictions o service a.property none, r.Counts) ∧
      Served o (Ontology.restrictions o service a.property none) onHand := by
  unfold supports
  cases e : Ontology.restrictions o service a.property none with
  | nil => simp
  | cons r rest =>
    simp only [ne_eq, List.cons_ne_nil, not_false_eq_true, true_and]
    rw [← Bound.merge_ok_iff]
    cases hm : Bound.merge (r :: rest) with
    | error error => simp
    | ok wanted =>
      have needs := (Bound.merged_of_merge hm).needs_eq
      simp only [solve_isSome_iff, solvable_iff_groups, needs]
      simp [Served]

theorem mem_supported_iff {c : Combination} {services : List Iri} {service : Iri} :
    service ∈ Matcher.supported a o c services ↔ service ∈ services ∧
      Ontology.restrictions o service a.property none ≠ [] ∧
      (∀ r ∈ Ontology.restrictions o service a.property none, r.Counts) ∧
      Served o (Ontology.restrictions o service a.property none) (a.capabilities o c) := by
  rw [← supports_iff]
  exact List.mem_filter

end Allocation

end RobotTeam
