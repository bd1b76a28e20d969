import RobotTeam.Pool.Combination
import Mathlib.Algebra.BigOperators.Ring.Finset
import Mathlib.Algebra.Order.BigOperators.Group.Finset
import Mathlib.Data.List.Basic
import Mathlib.Data.Nat.Notation

/-! Pools seen through their counts. A pool without stored zeros is determined by how often it
counts each model, and the operations on pools are described by what they do to the counts. -/

namespace RobotTeam.Pool

theorem count_eq_of_getElem? {p : Pool} {model : Iri} {n : ℕ} (h : p.counts[model]? = some n) :
    p.count model = n := by
  rw [count, Std.ExtTreeMap.getD_eq_getD_getElem?, h]
  rfl

theorem count_of_mem_entries {p : Pool} {model : Iri} {n : ℕ} (h : (model, n) ∈ p.entries) :
    p.count model = n :=
  count_eq_of_getElem? (mem_entries.mp h)

theorem mem_entries_of_count_pos {p : Pool} {model : Iri} (h : 0 < p.count model) :
    (model, p.count model) ∈ p.entries := by
  cases e : p.counts[model]? with
  | none =>
    rw [count, Std.ExtTreeMap.getD_eq_getD_getElem?, e] at h
    exact absurd h (Nat.lt_irrefl 0)
  | some n =>
    rw [count_eq_of_getElem? e]
    exact mem_entries.mpr e

theorem count_le_iff {p : Pool} {n : ℕ} : (∀ m, p.count m ≤ n) ↔ ∀ e ∈ p.entries, e.2 ≤ n := by
  constructor
  · rintro h ⟨m, k⟩ he
    rw [← count_of_mem_entries he]
    exact h m
  · intro h m
    by_cases hm : 0 < p.count m
    · exact h _ (mem_entries_of_count_pos hm)
    · omega

theorem map_fst_entries (p : Pool) : p.entries.map Prod.fst = p.models :=
  Std.ExtTreeMap.map_fst_toList_eq_keys

theorem ordered_models (p : Pool) : p.models.Pairwise fun a b => compare a b = .lt :=
  Std.ExtTreeMap.ordered_keys

theorem nodup_fst_entries (p : Pool) : (p.entries.map Prod.fst).Nodup := by
  rw [map_fst_entries]
  exact Std.ExtTreeMap.nodup_keys

@[simp] theorem count_empty (model : Iri) : count ∅ model = 0 := Std.ExtTreeMap.getD_empty

theorem eq_empty_of_isEmpty {p : Pool} (h : p.isEmpty = true) : p = ∅ := by
  cases p
  exact congrArg Pool.mk (Std.ExtTreeMap.isEmpty_iff.mp h)

theorem count_add (p : Pool) (model : Iri) (n : ℕ) (m : Iri) :
    (p.add model n).count m = p.count m + if model = m then n else 0 := by
  unfold add
  by_cases hn : n = 0
  · simp [hn]
  · rw [if_neg hn, count, Std.ExtTreeMap.getD_insert]
    by_cases h : model = m
    · rw [if_pos (Std.LawfulEqCmp.compare_eq_iff_eq.mpr h), if_pos h, h]
    · rw [if_neg (mt Std.LawfulEqCmp.compare_eq_iff_eq.mp h), if_neg h]
      rfl

theorem count_set (p : Pool) (model : Iri) (n : ℕ) (m : Iri) :
    (p.set model n).count m = if model = m then n else p.count m := by
  unfold set
  by_cases h : model = m
  · subst h
    rw [if_pos rfl]
    split
    · next zero =>
      rw [count, Std.ExtTreeMap.getD_erase_self, zero]
    · rw [count, Std.ExtTreeMap.getD_insert_self]
  · have other : compare model m ≠ .eq := mt Std.LawfulEqCmp.compare_eq_iff_eq.mp h
    rw [if_neg h]
    split
    · rw [count, Std.ExtTreeMap.getD_erase, if_neg other]
      rfl
    · rw [count, Std.ExtTreeMap.getD_insert, if_neg other]
      rfl

theorem noZeros_iff {p : Pool} : p.NoZeros ↔ ∀ model : Iri, p.counts[model]? ≠ some 0 := by
  constructor
  · intro h model zero
    exact Nat.lt_irrefl 0 (h (model, 0) (mem_entries.mpr zero))
  · rintro h ⟨model, n⟩ he
    refine Nat.pos_of_ne_zero ?_
    rintro rfl
    exact h model (mem_entries.mp he)

theorem NoZeros.set {p : Pool} (h : p.NoZeros) (model : Iri) (n : ℕ) : (p.set model n).NoZeros := by
  rw [noZeros_iff] at h ⊢
  intro m
  unfold Pool.set
  split
  · show (p.counts.erase model)[m]? ≠ some 0
    rw [Std.ExtTreeMap.getElem?_erase]
    split
    · simp
    · exact h m
  · next positive =>
    show (p.counts.insert model n)[m]? ≠ some 0
    rw [Std.ExtTreeMap.getElem?_insert]
    split
    · simpa using positive
    · exact h m

theorem noZeros_cap (p upper : Pool) : (p.cap upper).NoZeros := by
  refine List.foldlRecOn _ _ noZeros_empty fun r before e _ => ?_
  cases upper.counts[e.1]? with
  | none => exact before
  | some most => exact before.set e.1 (min e.2 most)

def amount : List (Iri × ℕ) → Iri → ℕ
  | [], _ => 0
  | e :: rest, model => (if e.1 = model then e.2 else 0) + amount rest model

theorem amount_cons (e : Iri × ℕ) (rest : List (Iri × ℕ)) (model : Iri) :
    amount (e :: rest) model = (if e.1 = model then e.2 else 0) + amount rest model := rfl

theorem amount_append (entries more : List (Iri × ℕ)) (model : Iri) :
    amount (entries ++ more) model = amount entries model + amount more model := by
  induction entries with
  | nil => exact (Nat.zero_add _).symm
  | cons e rest ih => rw [List.cons_append, amount_cons, amount_cons, ih, Nat.add_assoc]

theorem amount_of_not_mem {entries : List (Iri × ℕ)} {model : Iri}
    (h : model ∉ entries.map Prod.fst) : amount entries model = 0 := by
  induction entries with
  | nil => rfl
  | cons e rest ih =>
    rw [List.map_cons, List.mem_cons, not_or] at h
    rw [amount_cons, if_neg (Ne.symm h.1), ih h.2]

theorem amount_of_mem {entries : List (Iri × ℕ)} {model : Iri} {n : ℕ}
    (keys : (entries.map Prod.fst).Nodup) (h : (model, n) ∈ entries) :
    amount entries model = n := by
  induction entries with
  | nil => cases h
  | cons e rest ih =>
    obtain ⟨he, hrest⟩ := List.nodup_cons.mp keys
    rw [amount_cons]
    rcases List.mem_cons.mp h with rfl | h
    · rw [if_pos rfl, amount_of_not_mem he, Nat.add_zero]
    · have hne : e.1 ≠ model := fun e' => he (List.mem_map.mpr ⟨(model, n), h, e'.symm⟩)
      rw [if_neg hne, ih hrest h, Nat.zero_add]

theorem amount_map {models : List Iri} (distinct : models.Nodup) (f : Iri → ℕ) (model : Iri) :
    amount (models.map fun m => (m, f m)) model = if model ∈ models then f model else 0 := by
  have keys : (models.map fun m => (m, f m)).map Prod.fst = models := by
    rw [List.map_map]
    exact List.map_id models
  split
  · next named => exact amount_of_mem (by rwa [keys]) (List.mem_map_of_mem named)
  · next unnamed => exact amount_of_not_mem (by rwa [keys])

theorem amount_entries (p : Pool) (model : Iri) : amount p.entries model = p.count model := by
  by_cases h : model ∈ p.entries.map Prod.fst
  · obtain ⟨⟨m, n⟩, he, rfl⟩ := List.mem_map.mp h
    rw [amount_of_mem p.nodup_fst_entries he, count_of_mem_entries he]
  · rw [amount_of_not_mem h]
    by_contra hn
    have := mem_entries_of_count_pos (Nat.pos_of_ne_zero (Ne.symm hn))
    exact h (List.mem_map_of_mem this)

/-- A weighted sum over models goes through the entries of these models. -/
theorem sum_amount (w : Iri → ℕ) (entries : List (Iri × ℕ)) (models : Finset Iri) :
    ∑ m ∈ models, w m * amount entries m =
      (entries.map fun e => if e.1 ∈ models then w e.1 * e.2 else 0).sum := by
  induction entries with
  | nil => simp [amount]
  | cons e rest ih =>
    simp only [amount_cons, Nat.mul_add, Finset.sum_add_distrib, ih, List.map_cons, List.sum_cons]
    simp

theorem sum_entries (w : Iri → ℕ) {p : Pool} {models : Finset Iri}
    (all : ∀ m ∈ p.models, m ∈ models) :
    (p.entries.map fun e => w e.1 * e.2).sum = ∑ m ∈ models, w m * p.count m := by
  simp only [← amount_entries]
  rw [sum_amount]
  refine congrArg List.sum (List.map_congr_left fun e he => ?_)
  rw [if_pos]
  apply all
  rw [← map_fst_entries]
  exact List.mem_map_of_mem he

theorem count_ofEntries (entries : List (Iri × ℕ)) (m : Iri) :
    (ofEntries entries).count m = amount entries m := by
  suffices ∀ p : Pool, (entries.foldl (fun p e => p.add e.1 e.2) p).count m =
      p.count m + amount entries m by
    rw [ofEntries, this ∅, count_empty, Nat.zero_add]
  induction entries with
  | nil => exact fun p => rfl
  | cons e rest ih =>
    intro p
    rw [List.foldl_cons, ih, count_add, amount_cons, Nat.add_assoc]

theorem ofModels_eq_ofEntries (models : List Iri) :
    ofModels models = ofEntries (models.map fun m => (m, 1)) := by
  rw [ofModels, ofEntries, List.foldl_map]

theorem count_ofModels (models : List Iri) (m : Iri) :
    (ofModels models).count m = models.count m := by
  rw [ofModels_eq_ofEntries, count_ofEntries]
  induction models with
  | nil => rfl
  | cons a rest ih =>
    rw [List.map_cons, amount_cons, ih, List.count_cons, Nat.add_comm]
    by_cases h : a = m <;> simp [h]

theorem noZeros_ofModels (models : List Iri) : NoZeros (ofModels models) := by
  rw [ofModels_eq_ofEntries]
  exact noZeros_ofEntries _

theorem within_iff {p q : Pool} : p.Within q ↔ ∀ m, p.count m ≤ q.count m := by
  constructor
  · intro h m
    by_cases hm : 0 < p.count m
    · exact h _ (mem_entries_of_count_pos hm)
    · omega
  · rintro h ⟨m, n⟩ he
    have := h m
    rwa [count_of_mem_entries he] at this

theorem Within.count_le {p q : Pool} (h : p.Within q) : ∀ e ∈ q.entries, p.count e.1 ≤ e.2 := by
  rintro ⟨m, n⟩ he
  have := within_iff.mp h m
  rwa [count_of_mem_entries he] at this

/-- A pool that is within another one weighs at most as much. -/
theorem Within.sum_entries_le {p q : Pool} (h : p.Within q) (w : Iri → ℕ) :
    (p.entries.map fun e => w e.1 * e.2).sum ≤ (q.entries.map fun e => w e.1 * e.2).sum := by
  have left : ∀ m ∈ p.models, m ∈ p.models.toFinset ∪ q.models.toFinset := by
    intro m hm
    simp [hm]
  have right : ∀ m ∈ q.models, m ∈ p.models.toFinset ∪ q.models.toFinset := by
    intro m hm
    simp [hm]
  rw [sum_entries w left, sum_entries w right]
  apply Finset.sum_le_sum
  intro m _
  exact Nat.mul_le_mul_left (w m) (within_iff.mp h m)

theorem NoZeros.mem_entries_iff {p : Pool} (h : p.NoZeros) {model : Iri} {n : ℕ} :
    (model, n) ∈ p.entries ↔ p.count model = n ∧ 0 < n := by
  constructor
  · intro he
    exact ⟨count_of_mem_entries he, h _ he⟩
  · rintro ⟨rfl, hn⟩
    exact mem_entries_of_count_pos hn

theorem NoZeros.mem_models_iff {p : Pool} (h : p.NoZeros) {model : Iri} :
    model ∈ p.models ↔ 0 < p.count model := by
  rw [← map_fst_entries, List.mem_map]
  constructor
  · rintro ⟨e, he, rfl⟩
    obtain ⟨count, positive⟩ := h.mem_entries_iff.mp he
    rwa [count]
  · intro positive
    exact ⟨_, mem_entries_of_count_pos positive, rfl⟩

theorem NoZeros.ext {p q : Pool} (hp : p.NoZeros) (hq : q.NoZeros)
    (h : ∀ m, p.count m = q.count m) : p = q := by
  have same : ∀ m : Iri, p.counts[m]? = q.counts[m]? := by
    intro m
    apply Option.ext
    intro n
    rw [← mem_entries, ← mem_entries, hp.mem_entries_iff, hq.mem_entries_iff, h m]
  cases p
  cases q
  exact congrArg Pool.mk (Std.ExtTreeMap.ext_getElem? same)

theorem count_single (model : Iri) (n : ℕ) (m : Iri) :
    (single model n).count m = if model = m then n else 0 := count_set ∅ model n m

theorem noZeros_single (model : Iri) (n : ℕ) : NoZeros (single model n) :=
  noZeros_empty.set model n

theorem mem_entries_single {model : Iri} {n : ℕ} {e : Iri × ℕ} (h : e ∈ (single model n).entries) :
    e = (model, n) := by
  obtain ⟨count, positive⟩ := (noZeros_single model n).mem_entries_iff.mp h
  rw [count_single] at count
  split at count
  · next same => exact Prod.ext same.symm count.symm
  · omega

end RobotTeam.Pool
