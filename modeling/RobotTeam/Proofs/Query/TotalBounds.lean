import RobotTeam.Proofs.Matching.Classes
import RobotTeam.Proofs.Query.Answer
import RobotTeam.Proofs.Query.Totals

/-! Totals as restrictions. Merging a total gives one bound for each class that it names, with the
amount as its limit. For a single subject, adding up its minimums and taking the largest one is the
same as long as no class has two of them. -/

namespace RobotTeam

namespace Restriction

variable {r : Restriction} {restrictions : List Restriction} {model : Iri}

def InRange (r : Restriction) : Prop := r.cardinality ≤ Count.limit

instance (r : Restriction) : Decidable r.InRange :=
  inferInstanceAs (Decidable (r.cardinality ≤ Count.limit))

theorem Counts.sets_iff (h : r.Counts) (kind : Kind) : r.Sets kind ↔ r.kind.boundsAs kind = true := by
  unfold Sets
  rw [h.1, Bool.true_and]

theorem Counts.share_min (h : r.Counts) (model : Iri) :
    r.share .min model = if r.qualification = model then r.least else 0 := by
  have known := h.2
  unfold share least
  simp only [h.sets_iff]
  cases e : r.kind with
  | unknown => exact absurd e known
  | _ => simp [Kind.boundsAs]

theorem Counts.least_eq_zero (h : r.Counts) (other : ¬r.Sets .min) : r.least = 0 := by
  have share := h.share_min r.qualification
  rwa [Restriction.share, if_neg fun sets => other sets.1, if_pos rfl, eq_comm] at share

theorem Counts.least_of_sets (h : r.Counts) (sets : r.Sets .min) : r.least = r.cardinality := by
  have share := h.share_min r.qualification
  rw [Restriction.share, if_pos ⟨sets, rfl⟩, if_pos rfl] at share
  exact share.symm

theorem least_le (r : Restriction) : r.least ≤ r.cardinality := by
  unfold least
  split <;> omega

theorem lowest_le_limit (small : ∀ r ∈ restrictions, r.InRange) (model : Iri) :
    Bound.lowest restrictions model ≤ Count.limit :=
  Bound.lowest_le_iff.mpr fun r hr _ => r.least_le.trans (small r hr)

theorem lowest_le_declared (counts : ∀ r ∈ restrictions, r.Counts) (model : Iri) :
    Bound.lowest restrictions model ≤ declared .min restrictions model := by
  induction restrictions with
  | nil => exact Nat.le_refl 0
  | cons r rest ih =>
    have ih := ih fun t ht => counts t (List.mem_cons_of_mem r ht)
    rw [Bound.lowest_cons, declared_cons, (counts r List.mem_cons_self).share_min]
    split <;> omega

theorem exists_of_lowest_pos (counts : ∀ r ∈ restrictions, r.Counts)
    (asked : 0 < Bound.lowest restrictions model) :
    ∃ r ∈ restrictions, r.Sets .min ∧ r.qualification = model := by
  obtain ⟨r, hr, named, positive⟩ := Bound.lowest_pos_iff.mp asked
  refine ⟨r, hr, ?_, named⟩
  by_contra other
  exact positive.ne' ((counts r hr).least_eq_zero other)

theorem declared_eq_zero {kind : Kind}
    (h : ∀ r ∈ restrictions, r.Sets kind → r.qualification ≠ model) :
    declared kind restrictions model = 0 := by
  apply List.sum_eq_zero
  intro n hn
  obtain ⟨r, hr, rfl⟩ := List.mem_map.mp hn
  exact if_neg fun both => h r hr both.1 both.2

theorem declared_eq_lowest (counts : ∀ r ∈ restrictions, r.Counts)
    (distinct : ((restrictions.filter fun r => r.Sets .min).map qualification).Nodup) (model : Iri) :
    declared .min restrictions model = Bound.lowest restrictions model := by
  induction restrictions with
  | nil => rfl
  | cons r rest ih =>
    have counts' : ∀ t ∈ rest, t.Counts := fun t ht => counts t (List.mem_cons_of_mem r ht)
    rw [Bound.lowest_cons, declared_cons, (counts r List.mem_cons_self).share_min]
    by_cases sets : r.Sets .min
    · rw [List.filter_cons_of_pos (by simpa using sets), List.map_cons, List.nodup_cons] at distinct
      rw [ih counts' distinct.2]
      split
      · next named =>
        -- no other restriction on the class enters into the total
        have none : declared .min rest model = 0 := by
          apply declared_eq_zero
          intro t ht sets' named'
          refine distinct.1 (named.trans named'.symm ▸ List.mem_map_of_mem ?_)
          simpa [ht] using sets'
        have := lowest_le_declared counts' model
        omega
      · omega
    · rw [List.filter_cons_of_neg (by simpa using sets)] at distinct
      rw [ih counts' distinct, (counts r List.mem_cons_self).least_eq_zero sets]
      split <;> omega

end Restriction

namespace TotalKey

variable {ω : Type} [Ontology ω] (o : ω) {k : TotalKey}

theorem counts_total (known : k.reportedKind = .min ∨ k.reportedKind = .max) :
    ∀ r ∈ k.total o, r.Counts := by
  intro r hr
  obtain ⟨model, -, rfl⟩ := (k.mem_total o).mp hr
  refine ⟨rfl, ?_⟩
  show k.reportedKind ≠ .unknown
  rcases known with kind | kind <;> simp [kind]

theorem lowest_total (least : k.reportedKind = .min) (model : Iri) :
    Bound.lowest (k.total o) model = Count.capped (k.amount o model) := by
  rw [← getD_sums, total, least]
  exact Bound.lowest_toList k.property (k.sums o) model

/-- The classes of the total as bounds, with what it comes to as the limit. -/
def bounds (k : TotalKey) : List Bound := (k.sums o).toList.map fun e => ⟨e.1, 0, e.2⟩

theorem holds_bounds (k : TotalKey) (model : Iri) :
    Bound.holds (k.bounds o) model = Count.capped (k.amount o model) := by
  rw [← getD_sums, bounds, Bound.holds, List.map_map]
  refine Eq.trans ?_ (Pool.amount_entries ⟨k.sums o⟩ model)
  exact congrArg (Pool.amount · model) (List.map_id _)

theorem merged_bounds (most : k.reportedKind = .max) : Bound.Merged (k.total o) (k.bounds o) where
  sorted := by
    rw [bounds, List.pairwise_map]
    exact Std.ExtTreeMap.ordered_keys_toList
  models model := by
    rw [map_qualification_total, ← Std.ExtTreeMap.map_fst_toList_eq_keys, bounds, List.map_map]
    rfl
  min_eq b hb := by
    obtain ⟨e, -, rfl⟩ := List.mem_map.mp hb
    refine (Bound.lowest_eq_zero_iff.mpr fun r hr _ => ?_).symm
    obtain ⟨model, -, rfl⟩ := (k.mem_total o).mp hr
    simp [Restriction.least, Restriction.object, most]
  max_eq b hb := by
    obtain ⟨e, he, rfl⟩ := List.mem_map.mp hb
    have hr : Restriction.object k.property e.1 e.2 k.reportedKind ∈ k.total o :=
      List.mem_map_of_mem he
    obtain ⟨model, -, same⟩ := (k.mem_total o).mp hr
    -- an amount that did not fit would have left the bound open
    have counted : e.2 ≤ Count.limit := by
      rw [show e.2 = Count.capped (k.amount o model) from congrArg Restriction.cardinality same]
      exact Count.capped_le _
    have highest := Bound.highest_of_mem (k.nodup_total o) hr
    rw [most] at highest
    exact (highest counted).symm

/-- Merging an upper total changes nothing but its form. -/
theorem merge_total (most : k.reportedKind = .max) : Bound.merge (k.total o) = .ok (k.bounds o) := by
  obtain ⟨bounds, merged⟩ := Bound.merge_ok_iff.mpr (counts_total o (Or.inr most))
  rw [merged, (Bound.merged_of_merge merged).unique (merged_bounds o most)]

theorem holds_total (most : k.reportedKind = .max) {bounds : List Bound}
    (merged : Bound.Merged (k.total o) bounds) (model : Iri) :
    Bound.holds bounds model = Count.capped (k.amount o model) := by
  rw [merged.unique (merged_bounds o most), holds_bounds]

end TotalKey

end RobotTeam
