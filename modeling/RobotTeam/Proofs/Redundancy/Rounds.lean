import RobotTeam.Proofs.Matching.Consumption
import RobotTeam.Proofs.Matching.Exchange
import RobotTeam.Redundancy.Rounds

/-! Rounds of matching as a relation on problems: each round takes the canonical solution away,
until there is none. The loop that asks the matcher follows this relation and never ends with a
fault. -/

namespace RobotTeam

namespace Problem

variable {m n : ℕ} {p : Problem m n} {k : ℕ}

inductive Runs : Problem m n → ℕ → Prop where
  | stop {p : Problem m n} (h : ¬p.Solvable) : Runs p 0
  | round {p : Problem m n} {x : Fin m → Fin n → ℕ} {k : ℕ} (hx : p.Canonical x)
      (rest : Runs (p.without x) k) : Runs p (k + 1)

inductive Takes : Problem m n → List (Fin m → Fin n → ℕ) → Problem m n → Prop where
  | done (p : Problem m n) : Takes p [] p
  | round {p q : Problem m n} {x : Fin m → Fin n → ℕ} {tables : List (Fin m → Fin n → ℕ)}
      (hx : p.Canonical x) (rest : Takes (p.without x) tables q) : Takes p (x :: tables) q

theorem Solvable.of_times_succ (h : (p.times (k + 1)).Solvable) : p.Solvable := by
  obtain ⟨z, w, hz⟩ := exists_splits h
  exact ⟨z, hz.solves⟩

theorem Solvable.times_le {l : ℕ} (h : (p.times k).Solvable) (hl : l ≤ k) : (p.times l).Solvable := by
  induction k, hl using Nat.le_induction with
  | base => exact h
  | succ k _ ih =>
    obtain ⟨z, w, hz⟩ := exists_splits h
    refine ih ⟨w, hz.fits₂, hz.met₂, ?_⟩
    intro j
    exact (Nat.le_add_left _ _).trans (hz.within j)

theorem Solvable.times_total_le (h : (p.times k).Solvable) :
    k * ∑ i, p.need i ≤ ∑ j, p.held j := by
  rw [Finset.mul_sum]
  exact h.total_le

def Overruns (p : Problem m n) : Prop := (p.times (Count.limit + 1)).Solvable

theorem times_zero_solves (p : Problem m n) : (p.times 0).Solves fun _ _ => 0 :=
  ⟨fun _ _ h => absurd rfl h, fun i => by simp, fun j => by simp⟩

/-- A solution and `k` times the needs out of what it leaves are `k + 1` times the needs. -/
theorem Solves.add_times {x w : Fin m → Fin n → ℕ} (hx : p.Solves x)
    (hw : ((p.without x).times k).Solves w) : (p.times (k + 1)).Solves fun i j => x i j + w i j := by
  refine ⟨?_, ?_, ?_⟩
  · intro i j h
    by_cases hx0 : x i j = 0
    · exact hw.fits i j (by omega)
    · exact hx.fits i j hx0
  · intro i
    have met : ∑ j, w i j = k * p.need i := hw.met i
    rw [Finset.sum_add_distrib, hx.met, met, times_need, Nat.succ_mul, Nat.add_comm]
  · intro j
    have hxj := hx.within j
    have hwj : ∑ i, w i j ≤ p.held j - ∑ i, x i j := hw.within j
    rw [Finset.sum_add_distrib]
    show ∑ i, x i j + ∑ i, w i j ≤ p.held j
    omega

theorem Solves.times_succ {x : Fin m → Fin n → ℕ} (hx : p.Solves x)
    (h : ((p.without x).times k).Solvable) : (p.times (k + 1)).Solvable := by
  obtain ⟨w, hw⟩ := h
  exact ⟨_, hx.add_times hw⟩

theorem Solves.of_without {x w : Fin m → Fin n → ℕ} (hw : (p.without x).Solves w) : p.Solves w :=
  ⟨hw.fits, hw.met, fun j => (hw.within j).trans (Nat.sub_le _ _)⟩

namespace Takes

variable {q : Problem m n} {tables : List (Fin m → Fin n → ℕ)}

theorem runs (h : p.Takes tables q) (stuck : ¬q.Solvable) : p.Runs tables.length := by
  induction h with
  | done p => exact .stop stuck
  | round hx rest ih => exact .round hx (ih stuck)

/-- Each solution that was taken would have been one at the start. -/
theorem solves (h : p.Takes tables q) : ∀ x ∈ tables, p.Solves x := by
  induction h with
  | done p => simp
  | round hx rest ih =>
    rw [List.forall_mem_cons]
    exact ⟨hx.1, fun w hw => (ih w hw).of_without⟩

/-- What a slot has left and what was taken of it are what it held. -/
theorem balance (h : p.Takes tables q) (j : Fin n) :
    q.held j + ∑ i, (tables.map fun x => x i j).sum = p.held j := by
  induction h with
  | done p => simp
  | @round p q x tables hx rest ih =>
    have within := hx.1.within j
    have left : (p.without x).held j = p.held j - ∑ i, x i j := rfl
    simp only [List.map_cons, List.sum_cons, Finset.sum_add_distrib]
    omega

/-- All that was taken serves the requirements as often as there were rounds. -/
theorem times_solves (h : p.Takes tables q) :
    (p.times tables.length).Solves fun i j => (tables.map fun x => x i j).sum := by
  induction h with
  | done p => exact times_zero_solves p
  | round hx rest ih => exact hx.1.add_times ih

end Takes

/-- The rounds that were made can be made. -/
theorem Runs.solvable (h : p.Runs k) : (p.times k).Solvable := by
  induction h with
  | stop h => exact ⟨_, times_zero_solves _⟩
  | round hx rest ih => exact hx.1.times_succ ih

theorem Runs.le_limit (h : p.Runs k) (few : ¬p.Overruns) : k ≤ Count.limit := by
  by_contra hlt
  exact few (h.solvable.times_le (not_le.mp hlt))

/-- No way to serve the requirements makes more rounds, where slots stand in an orderly way. -/
theorem Runs.le_of_orderly (h : p.Runs k) (ordered : p.Orderly) {l : ℕ}
    (hl : (p.times l).Solvable) : l ≤ k := by
  induction h generalizing l with
  | stop h =>
    cases l with
    | zero => exact le_refl 0
    | succ l => exact absurd hl.of_times_succ h
  | round hx rest ih =>
    cases l with
    | zero => exact Nat.zero_le _
    | succ l => exact Nat.succ_le_succ (ih ordered (hx.leaves ordered hl))

end Problem

namespace Redundancy

open Problem

theorem exists_need_pos {required : List Bound} (asked : required ≠ [])
    (positive : ∀ b ∈ required, 0 < b.min) : ∃ i, 0 < (required.get i).min :=
  ⟨⟨0, List.length_pos_iff.mpr asked⟩, positive _ (List.get_mem _ _)⟩

theorem injective_model {available : List Bound} (distinct : (available.map Bound.model).Nodup) :
    Function.Injective fun j => (available.get j).model := by
  rw [← List.nodup_ofFn]
  have models : List.ofFn (fun j => (available.get j).model) = available.map Bound.model := by
    apply List.ext_getElem <;> simp
  rwa [models]

variable {ω : Type} [Ontology ω] {m n : ℕ} (o : ω) (required : Fin m → Bound)

theorem ofBounds_without {available rest : Fin n → Bound} {x : Fin m → Fin n → ℕ}
    (h : ∀ j, (rest j).model = (available j).model ∧
      (rest j).max = (available j).max - ∑ i, x i j) :
    ofBounds o required rest = (ofBounds o required available).without x := by
  have models : (fun j => (rest j).model) = fun j => (available j).model := funext fun j => (h j).1
  have most : (fun j => (rest j).max) = fun j => (available j).max - ∑ i, x i j :=
    funext fun j => (h j).2
  unfold ofBounds without
  rw [Problem.mk.injEq]
  refine ⟨rfl, most, ?_⟩
  funext i j
  rw [(h j).1]

theorem run_matchRounds_none {required available : List Bound} (s : Session Allocation) (count : ℕ)
    (h : Allocation.solve o required available = none) :
    (matchRounds required count available).run o s = (⟨count, available, none⟩, s) := by
  rw [run_matchRounds_step]
  simp only [Matcher.solve, h]

theorem run_matchRounds_some {required available fewer : List Bound} {sol : Solution}
    (s : Session Allocation) (count : ℕ) (h : Allocation.solve o required available = some sol)
    (uses : sol.consumed.isEmpty = false) (fits : sol.subtractFrom available = .ok fewer) :
    (matchRounds required count available).run o s =
      (matchRounds required (Count.next count) fewer).run o s := by
  rw [run_matchRounds_step]
  simp only [Matcher.solve, h, uses, fits, Bool.false_eq_true, if_false]

/-- The loop takes canonical solutions as long as there are any, and has no fault. What it returns of
their number is what a counter shows. -/
theorem run_matchRounds_takes (asks : ∃ i, 0 < (required i).min) (s : Session Allocation)
    (available : Fin n → Bound) (distinct : Function.Injective fun j => (available j).model)
    (count : ℕ) : ∃ tables rest,
      (ofBounds o required available).Takes tables (ofBounds o required rest) ∧
      ¬(ofBounds o required rest).Solvable ∧ (∀ j, (rest j).model = (available j).model) ∧
      (matchRounds (List.ofFn required) (Count.wrapped count) (List.ofFn available)).run o s =
        (⟨Count.wrapped (count + tables.length), List.ofFn rest, none⟩, s) := by
  generalize ht : Bound.total (List.ofFn available) = total
  induction total using Nat.strong_induction_on generalizing available count with
  | h total ih =>
    cases hs : Allocation.solve o (List.ofFn required) (List.ofFn available) with
    | none =>
      have stuck : ¬(ofBounds o required available).Solvable := by
        rw [← Allocation.solve_ofFn_isSome, hs]
        exact Bool.false_ne_true
      exact ⟨[], available, .done _, stuck, fun j => rfl, run_matchRounds_none o s _ hs⟩
    | some sol =>
      obtain ⟨x, hx, ha⟩ := (Allocation.solve_ofFn_eq_some o required available sol).mp hs
      obtain ⟨i, hi⟩ := asks
      have uses := hx.1.consumes i hi
      obtain ⟨mid, fits, hmid⟩ := hx.1.subtractFrom distinct
      rw [← ha] at uses fits
      have less := total_lt_of_subtractFrom uses fits
      have models : (fun j => (mid j).model) = fun j => (available j).model :=
        funext fun j => (hmid j).1
      obtain ⟨tables, rest, takes, stuck, same, hrun⟩ :=
        ih _ (ht ▸ less) mid (models ▸ distinct) (count + 1) rfl
      rw [ofBounds_without o required hmid] at takes
      refine ⟨x :: tables, rest, .round hx takes, stuck, fun j => (same j).trans (hmid j).1, ?_⟩
      rw [run_matchRounds_some o s _ hs uses fits, Count.next_wrapped, hrun, List.length_cons,
        Nat.add_right_comm, Nat.add_assoc]

/-- What the loop takes in all serves the requirements once for each round, and what it leaves does
not serve them again. -/
theorem run_matchRounds_spent (asks : ∃ i, 0 < (required i).min) (s : Session Allocation)
    (available : Fin n → Bound) (distinct : Function.Injective fun j => (available j).model) :
    ∃ k x rest, (ofBounds o required available).Runs k ∧
      ((ofBounds o required available).times k).Solves x ∧
      ¬(ofBounds o required rest).Solvable ∧
      (∀ j, (rest j).model = (available j).model ∧
        (rest j).max = (available j).max - ∑ i, x i j) ∧
      (matchRounds (List.ofFn required) 0 (List.ofFn available)).run o s =
        (⟨Count.wrapped k, List.ofFn rest, none⟩, s) := by
  obtain ⟨tables, rest, takes, stuck, same, hrun⟩ :=
    run_matchRounds_takes o required asks s available distinct 0
  rw [Count.wrapped_zero, Nat.zero_add] at hrun
  refine ⟨tables.length, _, rest, takes.runs stuck, takes.times_solves, stuck, ?_, hrun⟩
  intro j
  refine ⟨same j, ?_⟩
  have balance : (rest j).max + ∑ i, (tables.map fun x => x i j).sum = (available j).max :=
    takes.balance j
  omega

end Redundancy

end RobotTeam
