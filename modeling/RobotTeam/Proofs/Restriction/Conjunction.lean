import RobotTeam.Proofs.Restriction.Merge

/-! What merged bounds mean. A number lies within the limits of a class exactly if every restriction on
the class allows it. The largest count also stands for a missing maximum, which excludes no count. -/

namespace RobotTeam

namespace Restriction

def Allows (r : Restriction) (n : ℕ) : Prop :=
  match r.kind with
  | .min => r.cardinality ≤ n
  | .max => n ≤ r.cardinality
  | .exact => n = r.cardinality
  | .unknown => False

theorem Counts.allows_iff_within {r : Restriction} (h : r.Counts) {n : ℕ}
    (counted : n ≤ Bound.unbounded) : r.Allows n ↔ r.least ≤ n ∧ n ≤ r.most := by
  have known := h.2
  cases kind : r.kind with
  | min => simp [Allows, least, most, kind, counted]
  | max => simp [Allows, least, most, kind]
  | exact =>
    simp only [Allows, least, most, kind]
    omega
  | unknown => exact absurd kind known

end Restriction

namespace Bound

open Restriction

variable {restrictions : List Restriction} {bounds : List Bound}

theorem within_limits_iff (counts : ∀ r ∈ restrictions, r.Counts) (model : Iri) {n : ℕ}
    (counted : n ≤ unbounded) :
    (lowest restrictions model ≤ n ∧ n ≤ highest restrictions model) ↔
      ∀ r ∈ restrictions, r.qualification = model → r.Allows n := by
  rw [lowest_le_iff, le_highest_iff]
  constructor
  · rintro ⟨above, -, below⟩ r hr named
    exact ((counts r hr).allows_iff_within counted).mpr ⟨above r hr named, below r hr named⟩
  · intro allowed
    have within : ∀ r ∈ restrictions, r.qualification = model → r.least ≤ n ∧ n ≤ r.most :=
      fun r hr named => ((counts r hr).allows_iff_within counted).mp (allowed r hr named)
    exact ⟨fun r hr named => (within r hr named).1, counted, fun r hr named => (within r hr named).2⟩

/-- There is one bound for each class that is named, in the order of the classes, and a count lies
within it exactly if all restrictions on the class allow it. -/
structure Conjunction (restrictions : List Restriction) (bounds : List Bound) : Prop where
  sorted : bounds.Pairwise fun a b => compare a.model b.model = .lt
  named : ∀ q, (∃ b ∈ bounds, b.model = q) ↔ ∃ r ∈ restrictions, r.qualification = q
  means : ∀ b ∈ bounds, ∀ n ≤ Count.limit,
    (b.min ≤ n ∧ n ≤ b.max) ↔ ∀ r ∈ restrictions, r.qualification = b.model → r.Allows n

theorem Merged.conjunction (h : Merged restrictions bounds)
    (counts : ∀ r ∈ restrictions, r.Counts) : Conjunction restrictions bounds where
  sorted := h.sorted
  named := by
    intro q
    rw [← List.mem_map, ← List.mem_map]
    exact h.models q
  means := by
    intro b hb n counted
    rw [h.min_eq b hb, h.max_eq b hb]
    exact within_limits_iff counts b.model counted

theorem not_counts_iff {r : Restriction} : ¬r.Counts ↔ r.isObject = false ∨ r.kind = .unknown := by
  rw [Counts, not_and_or, Bool.not_eq_true, not_not]

/-- Merging is refused exactly because of restrictions on datatypes or of unknown kind. Otherwise it
gives, for any order of the restrictions, the same bounds, which mean their conjunction. -/
theorem merge_conjunction (restrictions : List Restriction) :
    ((∃ reason, merge restrictions = .error (.typeMismatch reason)) ↔
      ∃ r ∈ restrictions, r.isObject = false ∨ r.kind = .unknown) ∧
    ((∀ r ∈ restrictions, ¬(r.isObject = false ∨ r.kind = .unknown)) →
      ∃ bounds, Conjunction restrictions bounds ∧
        ∀ permuted, restrictions.Perm permuted → merge permuted = .ok bounds) := by
  simp only [← not_counts_iff, not_not]
  refine ⟨⟨?_, merge_error⟩, ?_⟩
  · rintro ⟨reason, refused⟩
    by_contra all
    push Not at all
    rw [merge_of_counts all] at refused
    cases refused
  · intro counts
    obtain ⟨bounds, merged⟩ := merge_ok_iff.mpr counts
    refine ⟨bounds, (merged_of_merge merged).conjunction counts, fun permuted order => ?_⟩
    rw [← merge_perm order counts, merged]

/-- The largest count is allowed as a minimum and as a maximum, and limits may exclude every count. -/
theorem merge_conjunction_arms :
    let arm : Iri := ⟨"http://team#Arm"⟩
    let hook : Iri := ⟨"http://team#Hook"⟩
    let has : Iri := ⟨"http://team#has"⟩
    let restrictions : List Restriction :=
      [.object has hook 2 .exact, .object has arm Count.limit .min,
        .object has hook 1 .max, .object has arm Count.limit .max]
    (∀ r ∈ restrictions, ¬(r.isObject = false ∨ r.kind = .unknown)) ∧
      Conjunction restrictions [⟨arm, Count.limit, Count.limit⟩, ⟨hook, 2, 1⟩] := by
  intro arm hook has restrictions
  have known : ∀ r ∈ restrictions, ¬(r.isObject = false ∨ r.kind = .unknown) := by decide
  refine ⟨known, ?_⟩
  obtain ⟨bounds, meant, merged⟩ := (merge_conjunction restrictions).2 known
  have computed : merge restrictions = .ok [⟨arm, Count.limit, Count.limit⟩, ⟨hook, 2, 1⟩] := by
    decide
  rw [merged restrictions (List.Perm.refl _), Except.ok.injEq] at computed
  rwa [computed] at meant

end Bound

end RobotTeam
