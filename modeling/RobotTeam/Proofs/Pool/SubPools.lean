import RobotTeam.Proofs.Pool.Combination
import RobotTeam.Proofs.Pool.Odometer

/-! The sub-pools of a pool are the pools without stored zeros that are within it, each of them
once. The counts of a sub-pool are the digits of its number. -/

namespace RobotTeam

namespace SubPools

def digits (entries : List (Iri × ℕ)) (n : ℕ) : List (Iri × ℕ) :=
  (wheelsAt entries n).map fun w => (w.model, w.digit)

def code (digit : Iri → ℕ) : List (Iri × ℕ) → ℕ
  | [] => 0
  | e :: rest => (e.2 + 1) * code digit rest + digit e.1

variable {e : Iri × ℕ} {entries rest : List (Iri × ℕ)} {f g : Iri → ℕ} {n q r : ℕ}

theorem digits_cons (hr : r ≤ e.2) :
    digits (e :: rest) ((e.2 + 1) * q + r) = (e.1, r) :: digits rest q := by
  rw [digits, wheelsAt_cons hr, List.map_cons]
  rfl

theorem map_fst_digits (entries : List (Iri × ℕ)) (n : ℕ) :
    (digits entries n).map Prod.fst = entries.map Prod.fst := by
  induction entries generalizing n with
  | nil => rfl
  | cons e rest ih =>
    obtain ⟨q, r, rfl, hr⟩ := exists_digit n e.2
    rw [digits_cons hr, List.map_cons, List.map_cons, ih]

/-- No digit exceeds the count of its model. -/
theorem amount_digits_le (entries : List (Iri × ℕ)) (n : ℕ) (m : Iri) :
    Pool.amount (digits entries n) m ≤ Pool.amount entries m := by
  induction entries generalizing n with
  | nil => exact Nat.zero_le _
  | cons e rest ih =>
    obtain ⟨q, r, rfl, hr⟩ := exists_digit n e.2
    rw [digits_cons hr, Pool.amount_cons, Pool.amount_cons]
    have := ih q
    by_cases h : e.1 = m
    · rw [if_pos h, if_pos h]
      omega
    · rw [if_neg h, if_neg h]
      omega

theorem code_congr (h : ∀ m ∈ entries.map Prod.fst, f m = g m) :
    code f entries = code g entries := by
  induction entries with
  | nil => rfl
  | cons e rest ih =>
    rw [code, code, h e.1 List.mem_cons_self, ih fun m hm => h m (List.mem_cons_of_mem e.1 hm)]

/-- The digits of a number lead back to it. -/
theorem code_digits (keys : (entries.map Prod.fst).Nodup) (h : n < positions entries) :
    code (Pool.amount (digits entries n)) entries = n := by
  induction entries generalizing n with
  | nil => exact (Nat.lt_one_iff.mp h).symm
  | cons e rest ih =>
    obtain ⟨q, r, rfl, hr⟩ := exists_digit n e.2
    obtain ⟨he, hrest⟩ := List.nodup_cons.mp keys
    have later : ∀ m ∈ rest.map Prod.fst,
        Pool.amount (digits (e :: rest) ((e.2 + 1) * q + r)) m = Pool.amount (digits rest q) m := by
      intro m hm
      have hne : e.1 ≠ m := fun h => he (h ▸ hm)
      rw [digits_cons hr, Pool.amount_cons, if_neg hne, Nat.zero_add]
    have here : Pool.amount (digits (e :: rest) ((e.2 + 1) * q + r)) e.1 = r := by
      rw [digits_cons hr, Pool.amount_cons, if_pos rfl,
        Pool.amount_of_not_mem (by rwa [map_fst_digits]), Nat.add_zero]
    rw [code, here, code_congr later, ih hrest ((lt_positions_cons hr).mp h)]

theorem code_lt (h : ∀ e ∈ entries, f e.1 ≤ e.2) : code f entries < positions entries := by
  induction entries with
  | nil => exact Nat.one_pos
  | cons e rest ih =>
    rw [code, lt_positions_cons (h e List.mem_cons_self)]
    exact ih fun e' he' => h e' (List.mem_cons_of_mem e he')

theorem digits_code (h : ∀ e ∈ entries, f e.1 ≤ e.2) :
    digits entries (code f entries) = entries.map fun e => (e.1, f e.1) := by
  induction entries with
  | nil => rfl
  | cons e rest ih =>
    rw [code, digits_cons (h e List.mem_cons_self), List.map_cons,
      ih fun e' he' => h e' (List.mem_cons_of_mem e he')]

def below (n : ℕ) : Option ℕ := if n < totalLimit then some n else none

theorem foldlM_below (entries : List (Iri × ℕ)) (acc : ℕ) (h : acc < totalLimit) :
    entries.foldlM (fun acc e => below (acc * (e.2 + 1))) acc =
      below (acc * positions entries) := by
  induction entries generalizing acc with
  | nil =>
    rw [List.foldlM_nil, show positions [] = 1 from rfl, Nat.mul_one, below, if_pos h]
    rfl
  | cons e rest ih =>
    rw [List.foldlM_cons, positions_cons, ← Nat.mul_assoc]
    by_cases hn : acc * (e.2 + 1) < totalLimit
    · rw [show below (acc * (e.2 + 1)) = some (acc * (e.2 + 1)) from if_pos hn]
      exact ih _ hn
    · have := Nat.le_mul_of_pos_right (acc * (e.2 + 1)) (positions_pos rest)
      rw [show below (acc * (e.2 + 1)) = none from if_neg hn, below, if_neg (by omega)]
      rfl

/-- The number is given whenever it is below the limit, whatever the products on the way. -/
theorem total?_eq (p : Pool) :
    total? p = if number p < totalLimit then some (number p) else none := by
  have := foldlM_below p.entries 1 (by decide)
  rwa [Nat.one_mul] at this

end SubPools

namespace Pool

open SubPools

def subPool (p : Pool) (n : ℕ) : Pool := shown (wheelsAt p.entries n)

theorem firstSubPools_eq (p : Pool) (k : ℕ) : p.firstSubPools k =
    ((List.range (min k (number p))).map p.subPool, decide (number p ≤ k)) := by
  have last : (position p.entries k).isNone = decide (number p ≤ k) := by
    by_cases h : k < number p
    · have here : position p.entries k = some (wheelsAt p.entries k) := if_pos h
      rw [here, decide_eq_false (Nat.not_le.mpr h)]
      rfl
    · have here : position p.entries k = none := if_neg h
      rw [here, decide_eq_true (Nat.le_of_not_lt h)]
      rfl
  rw [firstSubPools, run_start, ← last]
  show (((List.range _).map (wheelsAt p.entries)).map SubPools.shown, _) = _
  rw [List.map_map]
  rfl

theorem subPools_eq (p : Pool) : p.subPools = (List.range (number p)).map p.subPool := by
  rw [subPools, firstSubPools_eq, Nat.min_self]

theorem count_subPool (p : Pool) (n : ℕ) (m : Iri) :
    (p.subPool n).count m = amount (digits p.entries n) m := count_ofEntries _ m

theorem code_subPool {p : Pool} {n : ℕ} (h : n < number p) :
    code (p.subPool n).count p.entries = n := by
  rw [show (p.subPool n).count = amount (digits p.entries n) from funext (p.count_subPool n)]
  exact code_digits p.nodup_fst_entries h

theorem subPool_code {p q : Pool} (zeros : q.NoZeros) (within : q.Within p) :
    p.subPool (code q.count p.entries) = q := by
  refine NoZeros.ext (noZeros_ofEntries _) zeros fun m => ?_
  rw [count_subPool, digits_code within.count_le]
  have fst : (p.entries.map fun e => (e.1, q.count e.1)).map Prod.fst = p.entries.map Prod.fst := by
    rw [List.map_map]
    rfl
  by_cases h : m ∈ p.entries.map Prod.fst
  · obtain ⟨e, he, rfl⟩ := List.mem_map.mp h
    exact amount_of_mem (fst ▸ p.nodup_fst_entries) (List.mem_map.mpr ⟨e, he, rfl⟩)
  · have none : p.count m = 0 := by rw [← amount_entries, amount_of_not_mem h]
    have := within_iff.mp within m
    rw [amount_of_not_mem (fst ▸ h)]
    omega

theorem length_subPools (p : Pool) : p.subPools.length = number p := by
  rw [subPools_eq, List.length_map, List.length_range]

theorem nodup_subPools (p : Pool) : p.subPools.Nodup := by
  rw [subPools_eq]
  refine List.nodup_range.map_on ?_
  intro n hn k hk same
  rw [← code_subPool (List.mem_range.mp hn), same, code_subPool (List.mem_range.mp hk)]

theorem mem_subPools {p q : Pool} : q ∈ p.subPools ↔ q.NoZeros ∧ q.Within p := by
  rw [subPools_eq, List.mem_map]
  constructor
  · rintro ⟨n, -, rfl⟩
    refine ⟨noZeros_ofEntries _, within_iff.mpr fun m => ?_⟩
    rw [count_subPool, ← amount_entries p]
    exact amount_digits_le p.entries n m
  · rintro ⟨zeros, within⟩
    exact ⟨code q.count p.entries, List.mem_range.mpr (code_lt within.count_le),
      subPool_code zeros within⟩

theorem length_subCombinations (p : Pool) : p.subCombinations.length = number p := by
  rw [subCombinations, List.length_map, length_subPools]

theorem nodup_subCombinations (p : Pool) : p.subCombinations.Nodup := by
  refine p.nodup_subPools.map_on ?_
  intro q hq r hr same
  rw [← toPool_toCombination (mem_subPools.mp hq).1, same,
    toPool_toCombination (mem_subPools.mp hr).1]

/-- The sub-combinations of a pool are the sorted combinations within it. -/
theorem mem_subCombinations {p : Pool} {c : Combination} :
    c ∈ p.subCombinations ↔ c.Sorted ∧ c.toPool.Within p := by
  rw [subCombinations, List.mem_map]
  constructor
  · rintro ⟨q, hq, rfl⟩
    obtain ⟨zeros, within⟩ := mem_subPools.mp hq
    refine ⟨q.sorted_toCombination, ?_⟩
    rwa [toPool_toCombination zeros]
  · rintro ⟨sorted, within⟩
    exact ⟨c.toPool, mem_subPools.mpr ⟨c.noZeros_toPool, within⟩, sorted.toCombination_toPool⟩

end Pool

end RobotTeam
