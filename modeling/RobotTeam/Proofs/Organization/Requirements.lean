import RobotTeam.Organization.Basic
import RobotTeam.Proofs.Query.TotalBounds

/-! What a service requires: on every class the sum of the minimums that the service declares on it. -/

namespace RobotTeam.Organization

variable {ω : Type} (a : Organization ω) {service : Iri}

def requiredKey (service : Iri) : TotalKey :=
  ⟨Pool.single service 1, a.settings.property, .min, false⟩

variable [Ontology ω]

def declaredBy (subject : Iri) : List Restriction :=
  Ontology.restrictions a.ontology subject a.settings.property none

variable {a}

theorem amount_requiredKey (model : Iri) : (a.requiredKey service).amount a.ontology model =
    Restriction.declared .min (a.declaredBy service) model := by
  refine (TotalKey.amount_single a.ontology service a.settings.property 1 .min false model).trans ?_
  exact Nat.mul_one _

/-- A class has a total over a single instance if the subject declares something on it. -/
theorem mem_sums_single {subject : Iri} {kind : Kind} (maxToMin : Bool) (model : Iri) :
    model ∈ TotalKey.sums a.ontology ⟨Pool.single subject 1, a.settings.property, kind, maxToMin⟩ ↔
      ∃ r ∈ a.declaredBy subject, r.Sets kind ∧ r.qualification = model := by
  rw [TotalKey.mem_sums]
  constructor
  · rintro ⟨e, he, r, hr, sets⟩
    obtain rfl := Pool.mem_entries_single he
    exact ⟨r, hr, sets⟩
  · rintro ⟨r, hr, sets⟩
    have one : (subject, 1) ∈ (Pool.single subject 1).entries :=
      (Pool.noZeros_single subject 1).mem_entries_iff.mpr (by simp [Pool.count_single])
    exact ⟨(subject, 1), one, r, hr, sets⟩

theorem mem_requiredKey (model : Iri) : model ∈ (a.requiredKey service).sums a.ontology ↔
    ∃ r ∈ a.declaredBy service, r.Sets .min ∧ r.qualification = model := mem_sums_single false model

/-- A class that has no entry is one of which nothing is required. -/
theorem forall_required_iff {P : Iri → ℕ → Prop} (free : ∀ model, P model 0) :
    (∀ r ∈ (a.requiredKey service).total a.ontology, P r.qualification r.cardinality) ↔
      ∀ model, P model (Count.capped (Restriction.declared .min (a.declaredBy service) model)) := by
  constructor
  · intro h model
    rw [← amount_requiredKey]
    by_cases hm : model ∈ (a.requiredKey service).sums a.ontology
    · exact h _ ((TotalKey.mem_total _ _).mpr ⟨model, hm, rfl⟩)
    · rw [TotalKey.amount_eq_zero _ _ hm]
      exact free model
  · intro h r hr
    obtain ⟨model, -, rfl⟩ := (TotalKey.mem_total _ _).mp hr
    have one := h model
    rwa [← amount_requiredKey] at one

end RobotTeam.Organization
