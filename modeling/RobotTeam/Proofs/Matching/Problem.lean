import RobotTeam.Proofs.Matching.Search
import Mathlib.Algebra.BigOperators.Fin
import Mathlib.Data.List.OfFn

/-! Matching problems as tables of shares: a requirement for each row, a slot for each column. The
tables that the search ranges over are exactly the solutions, read row by row. -/

namespace RobotTeam

/-- What each requirement needs, what each slot holds, and which slots fit a requirement. -/
structure Problem (m n : ℕ) where
  need : Fin m → ℕ
  held : Fin n → ℕ
  fits : Fin m → Fin n → Prop

namespace Problem

variable {m n : ℕ}

/-- Every requirement gets exactly what it needs, from fitting slots, and no slot gives more than it
holds. -/
structure Solves (p : Problem m n) (x : Fin m → Fin n → ℕ) : Prop where
  fits : ∀ i j, x i j ≠ 0 → p.fits i j
  met : ∀ i, ∑ j, x i j = p.need i
  within : ∀ j, ∑ i, x i j ≤ p.held j

def Solvable (p : Problem m n) : Prop := ∃ x, p.Solves x

theorem Solves.exists_share {p : Problem m n} {x : Fin m → Fin n → ℕ} (hx : p.Solves x) {i : Fin m}
    (asks : 0 < p.need i) : ∃ j, x i j ≠ 0 := by
  by_contra hn
  push Not at hn
  have met := hx.met i
  rw [Finset.sum_eq_zero fun j _ => hn j] at met
  exact absurd met asks.ne

def reading (x : Fin m → Fin n → ℕ) : List (List ℕ) := List.ofFn fun i => List.ofFn (x i)

theorem reading_injective {x y : Fin m → Fin n → ℕ} (h : reading x = reading y) : x = y := by
  funext i
  exact List.ofFn_injective (congrFun (List.ofFn_injective h) i)

theorem reading_succ (x : Fin (m + 1) → Fin n → ℕ) :
    reading x = List.ofFn (x 0) :: reading fun i => x i.succ := List.ofFn_succ

def demands (need : Fin m → ℕ) (fits : Fin m → Fin n → Bool) : List Demand :=
  List.ofFn fun i => ⟨need i, List.ofFn (fits i)⟩

theorem row_iff (need : ℕ) (fits : Fin n → Bool) (held : Fin n → ℕ) (row : List ℕ) :
    Demand.Row need (List.ofFn fits) (List.ofFn held) row ↔
      ∃ f : Fin n → ℕ, row = List.ofFn f ∧ (∀ j, f j ≤ held j) ∧ (∀ j, f j ≠ 0 → fits j = true) ∧
        ∑ j, f j = need := by
  induction n generalizing need row with
  | zero =>
    simp only [List.ofFn_zero, Demand.row_nil_iff, Finset.univ_eq_empty, Finset.sum_empty]
    constructor
    · rintro ⟨rfl, rfl⟩
      exact ⟨Fin.elim0, rfl, fun j => j.elim0, fun j => j.elim0, rfl⟩
    · rintro ⟨f, rfl, -, -, h⟩
      exact ⟨h.symm, rfl⟩
  | succ n ih =>
    rw [List.ofFn_succ, List.ofFn_succ]
    constructor
    · intro h
      cases h with
      | @cons _ share _ need _ _ row within fitting rest =>
        obtain ⟨f, rfl, hw, hf, rfl⟩ := (ih need _ _ row).mp rest
        refine ⟨Fin.cons share f, by simp [List.ofFn_succ], ?_, ?_, by simp [Fin.sum_univ_succ]⟩
        · exact Fin.cases within hw
        · exact Fin.cases fitting hf
    · rintro ⟨f, rfl, hw, hf, rfl⟩
      rw [List.ofFn_succ, Fin.sum_univ_succ]
      exact .cons (hw 0) (hf 0)
        ((ih _ _ _ _).mpr ⟨_, rfl, fun j => hw j.succ, fun j => hf j.succ, rfl⟩)

theorem left_ofFn (held f : Fin n → ℕ) :
    Demand.left (List.ofFn held) (List.ofFn f) = List.ofFn fun j => held j - f j := by
  apply List.ext_getElem <;> simp [Demand.left]

theorem table_iff (need : Fin m → ℕ) (fits : Fin m → Fin n → Bool) (held : Fin n → ℕ)
    (rows : List (List ℕ)) :
    Demand.Table (demands need fits) (List.ofFn held) rows ↔
      ∃ x, rows = reading x ∧ Solves ⟨need, held, fun i j => fits i j = true⟩ x := by
  induction m generalizing held rows with
  | zero =>
    constructor
    · intro h
      simp only [demands, List.ofFn_zero] at h
      cases h
      exact ⟨Fin.elim0, rfl, ⟨fun i => i.elim0, fun i => i.elim0, fun j => by simp⟩⟩
    · rintro ⟨x, rfl, -⟩
      simp only [demands, List.ofFn_zero, reading]
      exact .nil _
  | succ m ih =>
    have unfold : demands need fits =
        ⟨need 0, List.ofFn (fits 0)⟩ :: demands (fun i => need i.succ) fun i => fits i.succ :=
      List.ofFn_succ
    rw [unfold]
    constructor
    · intro h
      cases h with
      | @cons _ _ _ row rows first others =>
        obtain ⟨f, rfl, hw, hf, hs⟩ := (row_iff _ _ _ row).mp first
        rw [left_ofFn] at others
        obtain ⟨x, rfl, hx⟩ := (ih _ _ _ rows).mp others
        refine ⟨Fin.cons f x, by simp [reading_succ], ?_, ?_, ?_⟩
        · exact Fin.cases hf hx.fits
        · exact Fin.cases hs hx.met
        · intro j
          have := hx.within j
          have := hw j
          simp only [Fin.sum_univ_succ, Fin.cons_zero, Fin.cons_succ] at *
          omega
    · rintro ⟨x, rfl, hx⟩
      have column : ∀ j, x 0 j + ∑ i : Fin m, x i.succ j ≤ held j := by
        intro j
        have := hx.within j
        rwa [Fin.sum_univ_succ] at this
      rw [reading_succ]
      refine .cons ((row_iff _ _ _ _).mpr ⟨x 0, rfl, ?_, hx.fits 0, hx.met 0⟩) ?_
      · intro j
        have := column j
        omega
      · rw [left_ofFn]
        refine (ih _ _ _ _).mpr ⟨_, rfl, fun i => hx.fits i.succ, fun i => hx.met i.succ, ?_⟩
        intro j
        have := column j
        show ∑ i : Fin m, x i.succ j ≤ held j - x 0 j
        omega

end Problem

end RobotTeam
