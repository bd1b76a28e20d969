import RobotTeam.Proofs.Pool.SubPools

/-! The enumeration of sub-pools as a whole. The sub-pool with the number `n` counts each model by a
digit of `n` in mixed radix, where a model's base is one more than its count and smaller names stand
for lower digits. -/

namespace RobotTeam

namespace SubPools

/-- What a digit of the model is worth: the product of the bases of all smaller models. -/
def place (entries : List (Iri × ℕ)) (model : Iri) : ℕ :=
  positions (entries.filter fun e => (compare e.1 model).isLT)

variable {e : Iri × ℕ} {entries rest : List (Iri × ℕ)} {model : Iri}

theorem place_cons_lt (h : compare e.1 model = .lt) :
    place (e :: rest) model = (e.2 + 1) * place rest model := by
  rw [place, List.filter_cons_of_pos (by simp [h]), positions_cons, place]

theorem place_eq_one (h : ∀ e ∈ entries, compare e.1 model ≠ .lt) : place entries model = 1 := by
  have none : entries.filter (fun e => (compare e.1 model).isLT) = [] := by
    rw [List.filter_eq_nil_iff]
    intro e he
    simpa using h e he
  rw [place, none]
  rfl

/-- The digits of a number are found by division, where the models stand in order. -/
theorem amount_digits (ordered : entries.Pairwise fun e f => compare e.1 f.1 = .lt) (n : ℕ)
    (model : Iri) : Pool.amount (digits entries n) model =
      n / place entries model % (Pool.amount entries model + 1) := by
  induction entries generalizing n with
  | nil => exact (Nat.mod_one _).symm
  | cons e rest ih =>
    rw [List.pairwise_cons] at ordered
    rcases ordered with ⟨first, ordered⟩
    rcases exists_digit n e.2 with ⟨q, r, rfl, hr⟩
    rw [digits_cons hr, Pool.amount_cons, Pool.amount_cons]
    by_cases below : compare e.1 model = .lt
    · have other : e.1 ≠ model := by
        rintro rfl
        have same : compare e.1 e.1 = .eq := Std.ReflCmp.compare_self
        rw [same] at below
        cases below
      rw [if_neg other, if_neg other, Nat.zero_add, Nat.zero_add, ih ordered, place_cons_lt below,
        ← Nat.div_div_eq_div_mul, Nat.mul_add_div (Nat.succ_pos e.2),
        Nat.div_eq_of_lt (Nat.lt_succ_of_le hr)]
      rfl
    · -- no later model comes before this one, so its digit is the lowest or there is none
      have lowest : place (e :: rest) model = 1 := by
        apply place_eq_one
        rw [List.forall_mem_cons]
        exact ⟨below, fun e' he' h => below (Std.TransCmp.lt_trans (first e' he') h)⟩
      have absent : model ∉ rest.map Prod.fst := by
        intro h
        rcases List.mem_map.mp h with ⟨e', he', rfl⟩
        exact below (first e' he')
      have unseen : Pool.amount (digits rest q) model = 0 :=
        Pool.amount_of_not_mem (by rwa [map_fst_digits])
      rw [lowest, Nat.div_one, Pool.amount_of_not_mem absent, unseen, Nat.add_zero, Nat.add_zero]
      split
      · rw [Nat.mul_add_mod, Nat.mod_eq_of_lt (Nat.lt_succ_of_le hr)]
      · exact (Nat.mod_one _).symm

end SubPools

namespace Pool

open SubPools

/-- The enumeration goes through the zero-free pools within the pool, each of them once and in the
order of their numbers, and ends after the last of them. -/
theorem subPools_exact (p : Pool) :
    p.subPools.length = number p ∧
    (∀ k, p.firstSubPools k = (p.subPools.take k, decide (number p ≤ k))) ∧
    (∀ n, p.subPools[n]? = if n < number p then some (p.subPool n) else none) ∧
    (∀ n, (p.subPool n).NoZeros ∧
      ∀ m, (p.subPool n).count m = n / place p.entries m % (p.count m + 1)) ∧
    p.subPools.Nodup ∧ (∀ q, q ∈ p.subPools ↔ q.NoZeros ∧ q.Within p) ∧
    p.subCombinations.Nodup ∧ (∀ c, c ∈ p.subCombinations ↔ c.Sorted ∧ c.toPool.Within p) ∧
    total? p = if number p < 2 ^ 128 then some (number p) else none := by
  have ordered : p.entries.Pairwise fun e f => compare e.1 f.1 = .lt := by
    have models := p.ordered_models
    rwa [← map_fst_entries, List.pairwise_map] at models
  refine ⟨p.length_subPools, ?_, ?_, ?_, p.nodup_subPools, fun q => mem_subPools,
    p.nodup_subCombinations, fun c => mem_subCombinations, total?_eq p⟩
  · intro k
    rw [firstSubPools_eq, subPools_eq, ← List.map_take, List.take_range]
  · intro n
    rw [subPools_eq, List.getElem?_map]
    split
    · next h =>
      rw [List.getElem?_range h]
      rfl
    · next h =>
      rw [List.getElem?_eq_none (by rw [List.length_range]; omega)]
      rfl
  · intro n
    refine ⟨noZeros_ofEntries _, fun m => ?_⟩
    rw [count_subPool, amount_digits ordered, amount_entries]

end Pool

end RobotTeam
