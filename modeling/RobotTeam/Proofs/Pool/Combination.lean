import RobotTeam.Proofs.Pool.Counts
import Mathlib.Data.List.Perm.Basic
import Mathlib.Data.List.Count

/-! Combinations against pools. A sorted combination and a pool without stored zeros determine each
other, since both are determined by how often each model occurs. Lists of models give the same
combination, and the same pool, exactly when they are permutations of each other. -/

namespace RobotTeam

namespace Combination

def Sorted (c : Combination) : Prop := c.models.Pairwise fun a b => (compare a b).isLE

instance (c : Combination) : Decidable c.Sorted :=
  inferInstanceAs (Decidable (c.models.Pairwise fun a b => (compare a b).isLE))

theorem sorted_ofList (models : List Iri) : (ofList models).Sorted := by
  refine List.pairwise_mergeSort ?_ Iri.isLE_total models
  intro a b c
  exact Std.TransCmp.isLE_trans

theorem ofList_perm (models : List Iri) : (ofList models).models.Perm models :=
  List.mergeSort_perm models _

theorem count_toPool (c : Combination) (m : Iri) : c.toPool.count m = c.models.count m :=
  Pool.count_ofModels c.models m

theorem noZeros_toPool (c : Combination) : c.toPool.NoZeros := Pool.noZeros_ofModels c.models

/-- Sorted combinations of the same models are equal. -/
theorem Sorted.ext {c d : Combination} (hc : c.Sorted) (hd : d.Sorted)
    (h : ∀ m, c.models.count m = d.models.count m) : c = d := by
  have perm : c.models.Perm d.models := List.perm_iff_count.mpr h
  have same : c.models = d.models := by
    refine perm.eq_of_pairwise ?_ hc hd
    intro a b _ _ hab hba
    exact Std.LawfulEqCmp.eq_of_compare (Std.OrientedCmp.isLE_antisymm hab hba)
  cases c
  cases d
  exact congrArg mk same

theorem ofList_eq_iff {xs ys : List Iri} : ofList xs = ofList ys ↔ xs.Perm ys := by
  constructor
  · intro same
    have order := ofList_perm ys
    rw [← same] at order
    exact (ofList_perm xs).symm.trans order
  · intro perm
    refine (sorted_ofList xs).ext (sorted_ofList ys) ?_
    intro m
    rw [(ofList_perm xs).count_eq, (ofList_perm ys).count_eq, perm.count_eq]

end Combination

namespace Pool

theorem ofModels_eq_iff {xs ys : List Iri} : ofModels xs = ofModels ys ↔ xs.Perm ys := by
  rw [List.perm_iff_count]
  constructor
  · intro same m
    rw [← count_ofModels, same, count_ofModels]
  · intro counts
    refine (noZeros_ofModels xs).ext (noZeros_ofModels ys) ?_
    intro m
    rw [count_ofModels, count_ofModels, counts]

theorem sorted_toCombination (p : Pool) : p.toCombination.Sorted := Combination.sorted_ofList _

/-- Stored zeros leave no trace in a combination. -/
theorem count_toCombination (p : Pool) (m : Iri) : p.toCombination.models.count m = p.count m := by
  rw [toCombination, Combination.ofPool, (Combination.ofList_perm _).count_eq, ← amount_entries]
  generalize p.entries = entries
  induction entries with
  | nil => rfl
  | cons e rest ih =>
    rw [List.flatMap_cons, List.count_append, ih, List.count_replicate, amount_cons]
    by_cases h : e.1 = m <;> simp [h]

/-- Each model is written out as often as it is counted. -/
theorem size_toCombination (p : Pool) : p.toCombination.size = p.instances := by
  rw [toCombination, Combination.ofPool, Combination.size, (Combination.ofList_perm _).length_eq,
    List.length_flatMap]
  simp only [List.length_replicate]
  rfl

theorem toPool_toCombination {p : Pool} (h : p.NoZeros) : p.toCombination.toPool = p := by
  refine p.toCombination.noZeros_toPool.ext h ?_
  intro m
  rw [Combination.count_toPool, count_toCombination]

end Pool

theorem Combination.Sorted.toCombination_toPool {c : Combination} (h : c.Sorted) :
    c.toPool.toCombination = c := by
  refine (Pool.sorted_toCombination _).ext h ?_
  intro m
  rw [Pool.count_toCombination, Combination.count_toPool]

/-- Pools without stored zeros and sorted combinations are the same thing: they and no others come back
when they are turned into each other. A combination has as many members as its pool has instances, and
what is made of a list of models depends on how often each of them is listed, not on their order. -/
theorem Pool.toCombination_exact :
    (∀ p : Pool, ofCombination p.toCombination = p ↔ p.NoZeros) ∧
    (∀ c : Combination, c.toPool.toCombination = c ↔ c.Sorted) ∧
    (∀ p : Pool, p.toCombination.size = p.instances) ∧
    ∀ xs ys : List Iri, (Combination.ofList xs = Combination.ofList ys ↔ xs.Perm ys) ∧
      (xs.Perm ys ↔ ofModels xs = ofModels ys) := by
  refine ⟨fun p => ⟨?_, toPool_toCombination⟩, fun c => ⟨?_, Combination.Sorted.toCombination_toPool⟩,
    size_toCombination, fun xs ys => ⟨Combination.ofList_eq_iff, ofModels_eq_iff.symm⟩⟩
  · intro same
    rw [← same]
    exact p.toCombination.noZeros_toPool
  · intro same
    rw [← same]
    exact c.toPool.sorted_toCombination

def Combination.copies (n : ℕ) (model : Iri) : Combination := ofList (List.replicate n model)

theorem Combination.toPool_copies (n : ℕ) (model : Iri) :
    (copies n model).toPool = Pool.single model n := by
  refine (copies n model).noZeros_toPool.ext (Pool.noZeros_single model n) ?_
  intro m
  rw [count_toPool, copies, (ofList_perm _).count_eq, List.count_replicate, Pool.count_single]
  by_cases h : model = m <;> simp [h]

end RobotTeam
