import RobotTeam.Proofs.Matching.Solve
import RobotTeam.Proofs.Restriction.Subtraction
import Mathlib.Algebra.Order.BigOperators.Group.Finset

/-! What a solution uses up. Where the bounds on hand are of distinct models, a solution that was
found can be subtracted from them, and every maximum goes down by the column sum of its slot. -/

namespace RobotTeam

namespace Bound

variable {n : ℕ}

theorem take_ofFn (b : Fin n → Bound) (j : Fin n) (c : ℕ)
    (first : ∀ k < j, (b k).model ≠ (b j).model) (enough : c ≤ (b j).max) :
    take (b j).model c (List.ofFn b) = .ok (List.ofFn (Function.update b j ((b j).lower c))) := by
  induction n with
  | zero => exact j.elim0
  | succ n ih =>
    rw [List.ofFn_succ, List.ofFn_succ, take]
    cases j using Fin.cases with
    | zero =>
      have tail : (fun k : Fin n => Function.update b 0 ((b 0).lower c) k.succ) =
          fun k => b k.succ := by
        funext k
        exact Function.update_of_ne (Fin.succ_ne_zero k) _ _
      rw [if_pos rfl, if_neg (by omega), Function.update_self, tail]
    | succ j =>
      have tail : (fun k : Fin n => Function.update b j.succ ((b j.succ).lower c) k.succ) =
          Function.update (fun k => b k.succ) j ((b j.succ).lower c) := by
        funext k
        by_cases e : k = j
        · rw [e, Function.update_self, Function.update_self]
        · rw [Function.update_of_ne e, Function.update_of_ne (by simpa using e)]
      have head : b 0 = Function.update b j.succ ((b j.succ).lower c) 0 :=
        (Function.update_of_ne (Fin.succ_ne_zero j).symm _ _).symm
      have rest := ih (fun k => b k.succ) j
        (fun k hk => first k.succ (Fin.succ_lt_succ_iff.mpr hk)) enough
      rw [if_neg (first 0 (Fin.succ_pos j)), rest, tail, ← head]
      rfl

theorem takeAll_ofFn {entries : List (Iri × ℕ)} (b : Fin n → Bound)
    (distinct : Function.Injective fun j => (b j).model) (keys : (entries.map Prod.fst).Nodup)
    (enough : ∀ e ∈ entries, ∃ j, (b j).model = e.1 ∧ e.2 ≤ (b j).max) :
    ∃ b' : Fin n → Bound, takeAll entries (List.ofFn b) = .ok (List.ofFn b') ∧
      ∀ j, (b' j).model = (b j).model ∧
        (b' j).max + Pool.amount entries (b j).model = (b j).max := by
  induction entries generalizing b with
  | nil => exact ⟨b, rfl, fun j => ⟨rfl, rfl⟩⟩
  | cons e rest ih =>
    obtain ⟨he, hrest⟩ := List.nodup_cons.mp keys
    obtain ⟨j, hj, hle⟩ := enough e List.mem_cons_self
    have first : ∀ k < j, (b k).model ≠ (b j).model := fun k hk h => hk.ne (distinct h)
    have step := take_ofFn b j e.2 first hle
    generalize hm : Function.update b j ((b j).lower e.2) = mid at step
    have model : ∀ k, (mid k).model = (b k).model := by
      intro k
      by_cases h : k = j
      · rw [← hm, h, Function.update_self]
        rfl
      · rw [← hm, Function.update_of_ne h]
    have most : ∀ k, (mid k).max + (if e.1 = (b k).model then e.2 else 0) = (b k).max := by
      intro k
      by_cases h : k = j
      · rw [← hm, h, Function.update_self, if_pos hj.symm]
        exact Nat.sub_add_cancel hle
      · have hne : e.1 ≠ (b k).model := fun e' => h (distinct (e'.symm.trans hj.symm))
        rw [← hm, Function.update_of_ne h, if_neg hne, Nat.add_zero]
    obtain ⟨b', ht, hb'⟩ := ih mid (fun k l h => distinct (by simpa only [model] using h)) hrest
      (by
        intro f hf
        obtain ⟨k, hk, hfk⟩ := enough f (List.mem_cons_of_mem e hf)
        have hne : e.1 ≠ (b k).model := fun h => he (List.mem_map.mpr ⟨f, hf, hk.symm.trans h.symm⟩)
        have := most k
        rw [if_neg hne] at this
        exact ⟨k, (model k).trans hk, by omega⟩)
    refine ⟨b', ?_, ?_⟩
    · rw [takeAll, ← hj, step]
      exact ht
    · intro k
      have := most k
      have := (hb' k).2
      rw [model] at this
      refine ⟨(hb' k).1.trans (model k), ?_⟩
      rw [Pool.amount_cons]
      omega

end Bound

namespace Problem

variable {m n : ℕ} {required : Fin m → Bound} {available : Fin n → Bound} {x : Fin m → Fin n → ℕ}

/-- Assignments of nothing are left out, which no sum notices that vanishes on them. -/
theorem sum_assignments (F : Assignment → ℕ) (zero : ∀ a, a.count = 0 → F a = 0) :
    ((assignments required available x).map F).sum =
      ∑ i, ∑ j, F ⟨(required i).model, (available j).model, x i j⟩ := by
  have filtered : ∀ i, ∀ slots : List (Fin n), ((slots.filter fun j => 0 < x i j).map fun j =>
      F ⟨(required i).model, (available j).model, x i j⟩).sum =
      (slots.map fun j => F ⟨(required i).model, (available j).model, x i j⟩).sum := by
    intro i slots
    induction slots with
    | nil => rfl
    | cons j slots ih =>
      rw [List.filter_cons, List.map_cons, List.sum_cons]
      by_cases h : 0 < x i j
      · rw [if_pos (by simpa using h), List.map_cons, List.sum_cons, ih]
      · rw [if_neg (by simpa using h), ih, zero _ (by show x i j = 0; omega), Nat.zero_add]
  rw [assignments, List.map_flatMap, Fin.sum_univ_def]
  generalize List.finRange m = rows
  induction rows with
  | nil => rfl
  | cons i rows ih =>
    rw [List.flatMap_cons, List.sum_append, ih, List.map_cons, List.sum_cons, Fin.sum_univ_def,
      List.map_map, ← filtered]
    rfl

theorem count_consumed (model : Iri) :
    (Solution.mk (assignments required available x)).consumed.count model =
      ∑ i, ∑ j, if (available j).model = model then x i j else 0 := by
  rw [Solution.count_consumed, Solution.uses]
  refine sum_assignments (fun a => if a.available = model then a.count else 0) ?_
  intro a ha
  rw [ha]
  exact ite_self 0

theorem count_consumed_slot (distinct : Function.Injective fun j => (available j).model)
    (j : Fin n) :
    (Solution.mk (assignments required available x)).consumed.count (available j).model =
      ∑ i, x i j := by
  rw [count_consumed]
  refine Finset.sum_congr rfl fun i _ => ?_
  rw [Finset.sum_eq_single j, if_pos rfl]
  · intro l _ hl
    exact if_neg fun h => hl (distinct h)
  · intro h
    exact absurd (Finset.mem_univ j) h

/-- A solution can be subtracted, and leaves of each slot what its column does not take. -/
theorem Solves.subtractFrom {ω : Type} [Ontology ω] {o : ω}
    (hx : (ofBounds o required available).Solves x)
    (distinct : Function.Injective fun j => (available j).model) :
    ∃ rest : Fin n → Bound,
      (Solution.mk (assignments required available x)).subtractFrom (List.ofFn available) =
        .ok (List.ofFn rest) ∧
      ∀ j, (rest j).model = (available j).model ∧
        (rest j).max = (available j).max - ∑ i, x i j := by
  generalize hs : Solution.mk (assignments required available x) = s
  have slot : ∀ j, s.consumed.count (available j).model = ∑ i, x i j := by
    intro j
    rw [← hs]
    exact count_consumed_slot distinct j
  have enough : ∀ e ∈ s.consumed.entries,
      ∃ j, (available j).model = e.1 ∧ e.2 ≤ (available j).max := by
    rintro ⟨model, c⟩ he
    have zeros : s.consumed.NoZeros := Pool.noZeros_ofEntries _
    have hc := zeros.mem_entries_iff.mp he
    obtain ⟨j, rfl⟩ : ∃ j, (available j).model = model := by
      by_contra hn
      push Not at hn
      have none : s.consumed.count model = 0 := by
        rw [← hs, count_consumed]
        exact Finset.sum_eq_zero fun i _ => Finset.sum_eq_zero fun j _ => if_neg (hn j)
      omega
    refine ⟨j, rfl, ?_⟩
    rw [slot] at hc
    have := hx.within j
    show c ≤ (ofBounds o required available).held j
    omega
  obtain ⟨rest, ht, hr⟩ := Bound.takeAll_ofFn available distinct s.consumed.nodup_fst_entries enough
  refine ⟨rest, ht, fun j => ⟨(hr j).1, ?_⟩⟩
  have := (hr j).2
  rw [Pool.amount_entries, slot] at this
  omega

/-- A solution of requirements that ask for something uses something up. -/
theorem Solves.consumes {ω : Type} [Ontology ω] {o : ω}
    (hx : (ofBounds o required available).Solves x) (i : Fin m) (asks : 0 < (required i).min) :
    (Solution.mk (assignments required available x)).consumed.isEmpty = false := by
  by_contra empty
  rw [Bool.not_eq_false] at empty
  obtain ⟨j, hj⟩ := hx.exists_share asks
  have zero : (Solution.mk (assignments required available x)).consumed.count
      (available j).model = 0 := by
    rw [Pool.eq_empty_of_isEmpty empty, Pool.count_empty]
  rw [count_consumed, Finset.sum_eq_zero_iff] at zero
  have zero := zero i (Finset.mem_univ i)
  rw [Finset.sum_eq_zero_iff] at zero
  have zero := zero j (Finset.mem_univ j)
  rw [if_pos rfl] at zero
  exact hj zero

end Problem

end RobotTeam
