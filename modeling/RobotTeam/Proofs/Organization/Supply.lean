import RobotTeam.Organization.Support
import RobotTeam.Proofs.Matching.Support
import RobotTeam.Proofs.Organization.Requirements
import RobotTeam.Proofs.Pool.Combination

/-! What instances of a model supply of a class. It grows in proportion to their number until it
reaches the largest count, although every step on the way is cut off there. -/

namespace RobotTeam.Organization

open Redundancy

variable {ω : Type} (a : Organization ω)

def availableKey (pool : Pool) : TotalKey := ⟨pool, a.settings.property, .max, true⟩

variable [Ontology ω]

def supply (model : Iri) (n : ℕ) (q : Iri) : ℕ :=
  supplied a.ontology q ((a.availableKey (Pool.single model n)).total a.ontology)

/-- What a single instance declares at or below a class, however much it is. -/
def offer (model q : Iri) : ℕ :=
  ∑ c ∈ ((a.declaredBy model).map Restriction.qualification).toFinset with
    serves a.ontology c q = true, Restriction.declared .max (a.declaredBy model) c

variable {a} {service model : Iri} {n : ℕ}

/-- What is supplied of a class is what is on hand at or below it, cut off at the largest count. -/
theorem supplied_eq (o : ω) (q property : Iri) (kind : Kind) (entries : List (Iri × ℕ)) :
    supplied o q (entries.map fun e => .object property e.1 e.2 kind) =
      Count.capped (picked (serves o · q) (entries.map fun e => ⟨e.1, 0, e.2⟩)) := by
  have same : ∀ c, (c == q || Ontology.isSubclass o c q) = serves o c q := by
    intro c
    rw [serves, Bool.beq_comm]
  have counts := Count.foldl_addCapped ((entries.filter fun e => serves o e.1 q).map Prod.snd) 0
  rw [List.foldl_map, Nat.zero_add] at counts
  rw [supplied, List.filter_map, List.foldl_map, picked_entries]
  simp only [Function.comp_def, Restriction.qualification, Restriction.object, Filler.name, same]
  exact counts

theorem supply_eq_picked (model : Iri) (n : ℕ) (q : Iri) : a.supply model n q =
    Count.capped (picked (serves a.ontology · q) ((Allocation.mk a.settings.property).capabilities
      a.ontology (Combination.copies n model))) := by
  rw [Allocation.capabilities_eq, Combination.toPool_copies]
  exact supplied_eq a.ontology q _ _ _

theorem exists_offer {b : Bound} (hb : b ∈ (Allocation.mk a.settings.property).capabilities a.ontology
    (Combination.copies n model)) :
    ∃ r ∈ a.declaredBy model, r.Sets .max ∧ r.qualification = b.model := by
  rw [Allocation.capabilities_eq, Combination.toPool_copies] at hb
  obtain ⟨e, he, rfl⟩ := List.mem_map.mp hb
  have named : e.1 ∈ TotalKey.sums a.ontology _ :=
    Std.ExtTreeMap.mem_iff_isSome_getElem?.mpr
      (Option.isSome_of_eq_some (Std.ExtTreeMap.mem_toList_iff_getElem?_eq_some.mp he))
  obtain ⟨stored, hs, r, hr, both⟩ := (TotalKey.mem_sums _ _ _).mp named
  obtain rfl := Pool.mem_entries_single hs
  exact ⟨r, hr, both⟩

theorem holds_copies (model : Iri) (n : ℕ) (c : Iri) :
    Bound.holds ((Allocation.mk a.settings.property).capabilities a.ontology
      (Combination.copies n model)) c =
      Count.capped (Restriction.declared .max (a.declaredBy model) c * n) := by
  rw [Allocation.holds_capabilities, Combination.toPool_copies]
  exact congrArg Count.capped (TotalKey.amount_single a.ontology model _ n .max false c)

theorem supply_eq (model : Iri) (n : ℕ) (q : Iri) :
    a.supply model n q = Count.capped (n * a.offer model q) := by
  let named := ((a.declaredBy model).map Restriction.qualification).toFinset
  have known : ∀ b ∈ (Allocation.mk a.settings.property).capabilities a.ontology
      (Combination.copies n model), b.model ∈ named := by
    intro b hb
    obtain ⟨r, hr, -, same⟩ := exists_offer hb
    rw [List.mem_toFinset, ← same]
    exact List.mem_map_of_mem hr
  rw [supply_eq_picked, picked_eq_sum_holds _ _ known]
  simp only [holds_copies]
  rw [Count.capped_sum, ← Finset.sum_mul, Nat.mul_comm]
  rfl

/-- No number of instances supplies what one of them does not. -/
theorem supply_eq_zero {q : Iri} (none : a.supply model 1 q = 0) (n : ℕ) : a.supply model n q = 0 := by
  rw [supply_eq] at none ⊢
  unfold Count.capped Count.limit at *
  have nothing : a.offer model q = 0 := by omega
  rw [nothing]
  rfl

section Session

variable {μ : Type} [Matcher μ ω] {s : Session μ}

/-- Support weighs the totals of the requirements against those of the instances. -/
theorem run_support (sound : s.cache.Sound a.ontology) (service model : Iri) (n : ℕ) :
    (Query.run a.ontology (a.support service model n) s).1 =
      judge a.ontology ((a.requiredKey service).total a.ontology)
        ((a.availableKey (Pool.single model n)).total a.ontology) :=
  (Query.run_eq_answer (a.support service model n) sound).1

end Session

end RobotTeam.Organization
