import RobotTeam.Proofs.Matching.Shares
import RobotTeam.Proofs.Organization.Classification
import RobotTeam.Proofs.Restriction.Conjunction

/-! Whether the restrictions of a supported service can hold all at once. The matcher gives each class
the largest minimum that is set on it and does not look at maximums. So the restrictions of a service
that it lists can hold exactly where no minimum exceeds a maximum on the same class. -/

namespace RobotTeam

namespace Restriction

theorem Counts.least_le_iff {r : Restriction} (h : r.Counts) {n : ℕ} :
    r.least ≤ n ↔ (r.Sets .min → r.cardinality ≤ n) := by
  by_cases sets : r.Sets .min
  · rw [h.least_of_sets sets]
    exact ⟨fun h _ => h, fun h => h sets⟩
  · rw [h.least_eq_zero sets]
    exact iff_of_true (Nat.zero_le n) fun sets' => absurd sets' sets

theorem Counts.allows_iff {r : Restriction} (h : r.Counts) {n : ℕ} :
    r.Allows n ↔ r.least ≤ n ∧ (r.Sets .max → n ≤ r.cardinality) := by
  have known := h.2
  unfold Allows
  rw [h.least_le_iff, h.sets_iff, h.sets_iff]
  cases e : r.kind with
  | min => simp [Kind.boundsAs]
  | max => simp [Kind.boundsAs]
  | exact =>
    simp only [Kind.boundsAs, beq_self_eq_true, Bool.true_or, Bool.or_true, Bool.and_self,
      forall_const]
    omega
  | unknown => exact absurd e known

/-- No minimum on a class exceeds a maximum on it. -/
def Compatible (restrictions : List Restriction) : Prop :=
  ∀ r ∈ restrictions, ∀ t ∈ restrictions, r.qualification = t.qualification → r.Sets .min →
    t.Sets .max → r.cardinality ≤ t.cardinality

variable {restrictions : List Restriction}

theorem allows_lowest (counts : ∀ r ∈ restrictions, r.Counts) (compatible : Compatible restrictions) :
    ∀ r ∈ restrictions, r.Allows (Bound.lowest restrictions r.qualification) := by
  intro t ht
  rw [(counts t ht).allows_iff]
  constructor
  · exact Bound.lowest_le_iff.mp (Nat.le_refl _) t ht rfl
  · intro most
    refine Bound.lowest_le_iff.mpr fun r hr same => (counts r hr).least_le_iff.mpr fun least => ?_
    exact compatible r hr t ht same least most

end Restriction

open Restriction

variable {ω : Type} [Ontology ω] {o : ω} {restrictions : List Restriction} {onHand : List Bound}

/-- The classes can be given instances on hand in numbers that all restrictions allow. -/
def Satisfiable (o : ω) (restrictions : List Restriction) (onHand : List Bound) : Prop :=
  ∃ x, Shares o (classes restrictions) (Bound.models onHand) (Bound.holds onHand) x ∧
    ∀ r ∈ restrictions, r.Allows (received (Bound.models onHand) x r.qualification)

/-- Every class can have exactly the largest minimum on it. -/
theorem Served.exists_shares (h : Served o restrictions onHand)
    (counts : ∀ r ∈ restrictions, r.Counts) :
    ∃ x, Shares o (classes restrictions) (Bound.models onHand) (Bound.holds onHand) x ∧
      ∀ q ∈ classes restrictions, received (Bound.models onHand) x q =
        Bound.lowest restrictions q := by
  obtain ⟨wanted, merge⟩ := Bound.merge_ok_iff.mpr counts
  have merged := Bound.merged_of_merge merge
  have shares := exists_shares_iff o wanted onHand
  simp only [merged.models_eq, merged.needs_eq] at shares
  exact shares.mpr h

theorem satisfiable_iff (counts : ∀ r ∈ restrictions, r.Counts) :
    Satisfiable o restrictions onHand ↔ Served o restrictions onHand ∧ Compatible restrictions := by
  constructor
  · rintro ⟨x, shares, allows⟩
    have within : ∀ r ∈ restrictions, _ := fun r hr => (counts r hr).allows_iff.mp (allows r hr)
    constructor
    · refine shares.enough (fun q _ => Bound.lowest_le_iff.mpr ?_) fun q unnamed => ?_
      · rintro r hr rfl
        exact (within r hr).1
      · exact Bound.lowest_of_not_mem (mt mem_classes.mpr unnamed)
    · intro r hr t ht same least most
      refine ((counts r hr).least_le_iff.mp (within r hr).1 least).trans ?_
      rw [same]
      exact (within t ht).2 most
  · rintro ⟨served, compatible⟩
    -- giving each class the least that will do leaves all maximums intact
    obtain ⟨x, shares, met⟩ := served.exists_shares counts
    refine ⟨x, shares, fun r hr => ?_⟩
    rw [met r.qualification (mem_classes.mpr (List.mem_map_of_mem hr))]
    exact allows_lowest counts compatible r hr

namespace Organization

variable {services : List Iri} {service : Iri}

/-- The services that are listed and have no minimum above a maximum are those whose restrictions can
all hold. -/
theorem supported_compatible_iff (m : Allocation) (o : ω) (c : Combination) :
    service ∈ Matcher.supported m o c services ∧
        Compatible (Ontology.restrictions o service m.property none) ↔
      service ∈ services ∧ Ontology.restrictions o service m.property none ≠ [] ∧
        (∀ r ∈ Ontology.restrictions o service m.property none, r.Counts) ∧
        Satisfiable o (Ontology.restrictions o service m.property none) (m.capabilities o c) := by
  rw [Allocation.mem_supported_iff]
  constructor
  · rintro ⟨⟨known, declares, counts, served⟩, compatible⟩
    exact ⟨known, declares, counts, (satisfiable_iff counts).mpr ⟨served, compatible⟩⟩
  · rintro ⟨known, declares, counts, satisfiable⟩
    obtain ⟨served, compatible⟩ := (satisfiable_iff counts).mp satisfiable
    exact ⟨⟨known, declares, counts, served⟩, compatible⟩

section Cameras

def torn : FactBase :=
  .bare watching scout [.object carries camera 3 .min, .object carries camera 2 .max]
    [.object carries camera 3 .max]

/-- No number of cameras is right for watching, but the scout is said to support it. -/
theorem unsatisfiable_torn :
    watching ∈ Matcher.supported (Allocation.mk carries) torn (Combination.copies 1 scout)
      [watching] ∧
    ¬Satisfiable torn (Ontology.restrictions torn watching carries none)
      ((Allocation.mk carries).capabilities torn (Combination.copies 1 scout)) := by
  constructor
  · simp only [Matcher.supported, Allocation.capabilities, Combination.toPool_copies]
    decide +kernel
  · have declared : Ontology.restrictions torn watching carries none =
        [.object carries camera 3 .min, .object carries camera 2 .max] := by decide +kernel
    rw [declared]
    rintro ⟨x, -, allows⟩
    obtain ⟨least, most, -⟩ := List.forall_mem_cons.mp allows |>.imp_right List.forall_mem_cons.mp
    exact absurd (le_trans least most) (by decide)

end Cameras

end Organization

end RobotTeam
