import RobotTeam.Proofs.Matching.Problem
import Mathlib.Data.List.Lex
import Mathlib.Data.List.FinRange

/-! What the matcher finds. It finds a solution exactly when the problem has one, and then it is the
one whose table is lexicographically greatest. -/

namespace RobotTeam

namespace Problem

variable {ω : Type} [Ontology ω] {m n : ℕ}

/-- Requirements ask for their minimum, and bounds on hand give up to their maximum to the classes
at or above their own. -/
def ofBounds (o : ω) (required : Fin m → Bound) (available : Fin n → Bound) : Problem m n where
  need i := (required i).min
  held j := (available j).max
  fits i j := Ontology.isSubclass o (available j).model (required i).model = true

def assignments (required : Fin m → Bound) (available : Fin n → Bound) (x : Fin m → Fin n → ℕ) :
    List Assignment :=
  (List.finRange m).flatMap fun i =>
    ((List.finRange n).filter fun j => 0 < x i j).map fun j =>
      ⟨(required i).model, (available j).model, x i j⟩

/-- A solution whose table is the greatest of all, read row by row. -/
def Canonical (p : Problem m n) (x : Fin m → Fin n → ℕ) : Prop :=
  p.Solves x ∧ ∀ y, p.Solves y → reading y ≤ reading x

theorem demands_ofBounds (o : ω) (required : Fin m → Bound) (available : Fin n → Bound) :
    (List.ofFn required).map (Allocation.demand o (List.ofFn available)) =
      demands (fun i => (required i).min)
        fun i j => Ontology.isSubclass o (available j).model (required i).model := by
  rw [demands, List.map_ofFn]
  congr 1
  funext i
  simp [Allocation.demand, List.map_ofFn, Function.comp_def]

end Problem

namespace Allocation

open Problem

variable {ω : Type} [Ontology ω] {m n : ℕ} (o : ω) (required : Fin m → Bound)
  (available : Fin n → Bound)

theorem table_ofBounds (rows : List (List ℕ)) :
    Demand.Table ((List.ofFn required).map (demand o (List.ofFn available)))
        ((List.ofFn available).map Bound.max) rows ↔
      ∃ x, rows = reading x ∧ (ofBounds o required available).Solves x := by
  rw [demands_ofBounds, List.map_ofFn]
  exact table_iff _ _ _ rows

theorem allocate_ofBounds :
    Demand.Greatest (fun rows => ∃ x, rows = reading x ∧ (ofBounds o required available).Solves x)
      some (Demand.allocate ((List.ofFn required).map (demand o (List.ofFn available)))
        ((List.ofFn available).map Bound.max)) := by
  have same : ∀ d ∈ (List.ofFn required).map (demand o (List.ofFn available)),
      d.fits.length = ((List.ofFn available).map Bound.max).length := by
    intro d hd
    obtain ⟨b, -, rfl⟩ := List.mem_map.mp hd
    simp [demand]
  have shape := table_ofBounds o required available
  exact (Demand.allocate_greatest same).widen (fun rows h => (shape rows).mp h) (fun _ _ => rfl)
    fun rows h => Or.inl ((shape rows).mpr h)

theorem assignmentsOf_ofFn (b : Bound) (row : Fin n → ℕ) :
    assignmentsOf (List.ofFn available) b (List.ofFn row) =
      ((List.finRange n).filter fun j => 0 < row j).map fun j =>
        ⟨b.model, (available j).model, row j⟩ := by
  have pairs : (List.ofFn available).zip (List.ofFn row) =
      (List.finRange n).map fun j => (available j, row j) := by
    apply List.ext_getElem <;> simp
  rw [assignmentsOf, pairs, List.filter_map, List.map_map]
  rfl

theorem assignments_reading (x : Fin m → Fin n → ℕ) :
    (((List.ofFn required).zip (reading x)).map fun e =>
      assignmentsOf (List.ofFn available) e.1 e.2).flatten = assignments required available x := by
  have pairs : (List.ofFn required).zip (reading x) =
      (List.finRange m).map fun i => (required i, List.ofFn (x i)) := by
    apply List.ext_getElem <;> simp [reading]
  rw [pairs, List.map_map, assignments, List.flatMap_def]
  congr 1
  exact List.map_congr_left fun i _ => assignmentsOf_ofFn available (required i) (x i)

theorem solve_ofFn_isSome :
    (solve o (List.ofFn required) (List.ofFn available)).isSome ↔
      (ofBounds o required available).Solvable := by
  rw [solve, Option.isSome_map, (allocate_ofBounds o required available).isSome_iff]
  constructor
  · rintro ⟨_, x, -, hx⟩
    exact ⟨x, hx⟩
  · rintro ⟨x, hx⟩
    exact ⟨_, x, rfl, hx⟩

theorem solve_ofFn_eq_some (s : Solution) :
    solve o (List.ofFn required) (List.ofFn available) = some s ↔
      ∃ x, (ofBounds o required available).Canonical x ∧
        s.assignments = assignments required available x := by
  have total : ∀ c d : List (List ℕ), ¬c < d → ¬d < c → c = d :=
    fun c d h k => le_antisymm (not_lt.mp k) (not_lt.mp h)
  rw [solve, Option.map_eq_some_iff]
  simp only [(allocate_ofBounds o required available).eq_some_iff total]
  constructor
  · rintro ⟨_, ⟨⟨x, rfl, hx⟩, top⟩, rfl⟩
    refine ⟨x, ⟨hx, ?_⟩, assignments_reading required available x⟩
    intro y hy
    exact not_lt.mp (top _ ⟨y, rfl, hy⟩)
  · rintro ⟨x, ⟨hx, top⟩, hs⟩
    refine ⟨reading x, ⟨⟨x, rfl, hx⟩, ?_⟩, ?_⟩
    · rintro _ ⟨y, rfl, hy⟩
      exact not_lt.mpr (top y hy)
    · rw [assignments_reading, ← hs]

/-- A solution is found if and only if there is one. -/
theorem solve_isSome_iff (required available : List Bound) :
    (solve o required available).isSome ↔
      (ofBounds o required.get available.get).Solvable := by
  have h := solve_ofFn_isSome o required.get available.get
  rwa [List.ofFn_get, List.ofFn_get] at h

/-- The solution found is the lexicographically greatest one, written as its positive shares. -/
theorem solve_eq_some_iff (required available : List Bound) (s : Solution) :
    solve o required available = some s ↔
      ∃ x, (ofBounds o required.get available.get).Canonical x ∧
        s.assignments = assignments required.get available.get x := by
  have h := solve_ofFn_eq_some o required.get available.get s
  rwa [List.ofFn_get, List.ofFn_get] at h

end Allocation

end RobotTeam
