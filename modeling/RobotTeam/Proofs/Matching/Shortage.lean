import RobotTeam.Proofs.Matching.Problem
import Mathlib.Algebra.Order.BigOperators.Group.Finset
import Mathlib.Combinatorics.Hall.Basic
import Mathlib.Data.Fintype.Sigma

/-! A problem has no solution exactly when some group of requirements needs more than the slots hold
that fit a member of the group. -/

namespace RobotTeam.Problem

open scoped Classical in
noncomputable def serving {m n : ℕ} (p : Problem m n) (group : Finset (Fin m)) : Finset (Fin n) :=
  Finset.univ.filter fun j => ∃ i ∈ group, p.fits i j

/-- The group needs more than all slots hold that fit a member of it. -/
def Short {m n : ℕ} (p : Problem m n) (group : Finset (Fin m)) : Prop :=
  ∑ j ∈ p.serving group, p.held j < ∑ i ∈ group, p.need i

variable {m n : ℕ} {p : Problem m n} {x : Fin m → Fin n → ℕ}

theorem mem_serving {group : Finset (Fin m)} {j : Fin n} :
    j ∈ p.serving group ↔ ∃ i ∈ group, p.fits i j := by simp [serving]

theorem Solves.not_short (hx : p.Solves x) (group : Finset (Fin m)) : ¬p.Short group := by
  refine not_lt.mpr ?_
  calc ∑ i ∈ group, p.need i = ∑ i ∈ group, ∑ j, x i j :=
        Finset.sum_congr rfl fun i _ => (hx.met i).symm
    _ = ∑ i ∈ group, ∑ j ∈ p.serving group, x i j := by
      refine Finset.sum_congr rfl fun i hi => (Finset.sum_subset (Finset.subset_univ _) ?_).symm
      intro j _ hj
      by_contra h
      exact hj (mem_serving.mpr ⟨i, hi, hx.fits i j h⟩)
    _ = ∑ j ∈ p.serving group, ∑ i ∈ group, x i j := Finset.sum_comm
    _ ≤ ∑ j ∈ p.serving group, p.held j := by
      refine Finset.sum_le_sum fun j _ => le_trans ?_ (hx.within j)
      exact Finset.sum_le_sum_of_subset_of_nonneg (Finset.subset_univ _) fun i _ _ => Nat.zero_le _

abbrev Wanted (p : Problem m n) : Type := Σ i : Fin m, Fin (p.need i)

abbrev Stock (p : Problem m n) : Type := Σ j : Fin n, Fin (p.held j)

theorem card_stock (slots : Finset (Fin n)) :
    (Finset.univ.filter fun v : p.Stock => v.1 ∈ slots).card = ∑ j ∈ slots, p.held j := by
  have whole : (Finset.univ.filter fun v : p.Stock => v.1 ∈ slots) =
      slots.sigma fun _ => Finset.univ := by
    ext v
    simp
  rw [whole, Finset.card_sigma]
  simp

/-- Counting how many wanted instances of a requirement are matched to instances of a slot. -/
theorem solves_of_injective (f : p.Wanted → p.Stock) (inj : Function.Injective f)
    (fits : ∀ u, p.fits u.1 (f u).1) :
    p.Solves fun i j => (Finset.univ.filter fun c : Fin (p.need i) => (f ⟨i, c⟩).1 = j).card := by
  refine ⟨?_, ?_, ?_⟩
  · intro i j h
    obtain ⟨c, hc⟩ := Finset.card_ne_zero.mp h
    have := fits ⟨i, c⟩
    rwa [(Finset.mem_filter.mp hc).2] at this
  · intro i
    have := Finset.card_eq_sum_card_fiberwise (s := (Finset.univ : Finset (Fin (p.need i))))
      (t := Finset.univ) (f := fun c => (f ⟨i, c⟩).1) fun c _ => Finset.mem_univ _
    rw [Finset.card_univ, Fintype.card_fin] at this
    exact this.symm
  · intro j
    have total : ∑ i, (Finset.univ.filter fun c : Fin (p.need i) => (f ⟨i, c⟩).1 = j).card =
        (Finset.univ.filter fun u : p.Wanted => (f u).1 = j).card := by
      rw [← Finset.card_sigma]
      congr 1
      ext u
      simp
    have slot : (Finset.univ.filter fun v : p.Stock => v.1 = j).card = p.held j := by
      simpa using card_stock (p := p) {j}
    rw [total, ← slot]
    refine Finset.card_le_card_of_injOn f ?_ inj.injOn
    intro u hu
    simpa using hu

/-- Some group is short unless there is a solution. -/
theorem solvable_of_not_short (h : ∀ group, ¬p.Short group) : p.Solvable := by
  classical
  have hall : ∀ A : Finset p.Wanted,
      A.card ≤ (Finset.univ.filter fun v : p.Stock => ∃ u ∈ A, p.fits u.1 v.1).card := by
    intro A
    have least := not_lt.mp (h (A.image Sigma.fst))
    have wanted : A.card ≤ ∑ i ∈ A.image Sigma.fst, p.need i := by
      have sub : A ⊆ (A.image Sigma.fst).sigma fun _ => Finset.univ := by
        intro u hu
        exact Finset.mem_sigma.mpr ⟨Finset.mem_image_of_mem _ hu, Finset.mem_univ _⟩
      simpa [Finset.card_sigma] using Finset.card_le_card sub
    have stock : ∑ j ∈ p.serving (A.image Sigma.fst), p.held j =
        (Finset.univ.filter fun v : p.Stock => ∃ u ∈ A, p.fits u.1 v.1).card := by
      rw [← card_stock]
      congr 1
      ext v
      simp [mem_serving]
    omega
  obtain ⟨f, inj, fits⟩ := (Fintype.all_card_le_filter_rel_iff_exists_injective _).mp hall
  exact ⟨_, solves_of_injective f inj fits⟩

theorem not_solvable_iff_short : ¬p.Solvable ↔ ∃ group, p.Short group := by
  constructor
  · intro h
    by_contra hn
    push Not at hn
    exact h (solvable_of_not_short hn)
  · rintro ⟨group, hg⟩ ⟨x, hx⟩
    exact hx.not_short group hg

end RobotTeam.Problem
