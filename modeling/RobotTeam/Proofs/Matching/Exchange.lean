import RobotTeam.Proofs.Matching.Solve
import Mathlib.Algebra.Order.BigOperators.Group.Finset
import Mathlib.Order.Interval.Finset.Nat
import Mathlib.Data.Fintype.Pi
import Mathlib.Data.Set.Finite.Lattice
import Mathlib.Data.Set.Finite.Lemmas

/-! Moving shares between slots. Serving one unit from another slot keeps what a requirement gets
and changes two columns by one each. When slots that stand earlier are never the more useful ones,
such moves turn any way to serve the requirements once and then again into one that begins with the
canonical solution. -/

namespace RobotTeam.Problem

variable {m n : ℕ} {p : Problem m n} {x y z w : Fin m → Fin n → ℕ} {i : Fin m} {a b : Fin n}

def times (p : Problem m n) (k : ℕ) : Problem m n := { p with need := fun i => k * p.need i }

def without (p : Problem m n) (x : Fin m → Fin n → ℕ) : Problem m n :=
  { p with held := fun j => p.held j - ∑ i, x i j }

@[simp] theorem times_need (p : Problem m n) (k : ℕ) (i : Fin m) :
    (p.times k).need i = k * p.need i := rfl

@[simp] theorem times_held (p : Problem m n) (k : ℕ) (j : Fin n) :
    (p.times k).held j = p.held j := rfl

@[simp] theorem without_held (p : Problem m n) (x : Fin m → Fin n → ℕ) (j : Fin n) :
    (p.without x).held j = p.held j - ∑ i, x i j := rfl

theorem Solvable.total_le (h : p.Solvable) : ∑ i, p.need i ≤ ∑ j, p.held j := by
  obtain ⟨x, hx⟩ := h
  calc ∑ i, p.need i
      = ∑ i, ∑ j, x i j := Finset.sum_congr rfl fun i _ => (hx.met i).symm
    _ = ∑ j, ∑ i, x i j := Finset.sum_comm
    _ ≤ ∑ j, p.held j := Finset.sum_le_sum fun j _ => hx.within j

/-- Whenever an earlier and a later slot fit a common requirement, the later one fits every
requirement that the earlier one fits. -/
def Orderly (p : Problem m n) : Prop :=
  ∀ i a b, a < b → p.fits i a → p.fits i b → ∀ k, p.fits k a → p.fits k b

def unit (i : Fin m) (j : Fin n) (k : Fin m) (l : Fin n) : ℕ := if k = i ∧ l = j then 1 else 0

/-- Serves one unit of requirement `i` from slot `b` instead of slot `a`. -/
def shift (x : Fin m → Fin n → ℕ) (i : Fin m) (a b : Fin n) (k : Fin m) (l : Fin n) : ℕ :=
  x k l + unit i b k l - unit i a k l

theorem shift_add_unit (h : x i a ≠ 0) (k : Fin m) (l : Fin n) :
    shift x i a b k l + unit i a k l = x k l + unit i b k l := by
  have : unit i a k l ≤ x k l := by
    unfold unit
    split
    · next e =>
      rw [e.1, e.2]
      omega
    · exact Nat.zero_le _
  unfold shift
  omega

theorem sum_unit_row (j : Fin n) (k : Fin m) : ∑ l, unit i j k l = if k = i then 1 else 0 := by
  by_cases h : k = i <;> simp [unit, h]

theorem sum_unit_column (j l : Fin n) : ∑ k, unit i j k l = if l = j then 1 else 0 := by
  by_cases h : l = j <;> simp [unit, h]

theorem sum_shift_row (h : x i a ≠ 0) (k : Fin m) : ∑ l, shift x i a b k l = ∑ l, x k l := by
  have sums : ∑ l, (shift x i a b k l + unit i a k l) = ∑ l, (x k l + unit i b k l) :=
    Finset.sum_congr rfl fun l _ => shift_add_unit h k l
  rw [Finset.sum_add_distrib, Finset.sum_add_distrib, sum_unit_row, sum_unit_row] at sums
  omega

theorem sum_shift_column (h : x i a ≠ 0) (l : Fin n) :
    ∑ k, shift x i a b k l + (if l = a then 1 else 0) = ∑ k, x k l + if l = b then 1 else 0 := by
  have sums : ∑ k, (shift x i a b k l + unit i a k l) = ∑ k, (x k l + unit i b k l) :=
    Finset.sum_congr rfl fun k _ => shift_add_unit h k l
  rwa [Finset.sum_add_distrib, Finset.sum_add_distrib, sum_unit_column, sum_unit_column] at sums

theorem shift_other {k : Fin m} (h : k ≠ i) (l : Fin n) : shift x i a b k l = x k l := by
  simp [shift, unit, h]

theorem shift_before {l : Fin n} (ha : l ≠ a) (hb : l ≠ b) : shift x i a b i l = x i l := by
  simp [shift, unit, ha, hb]

theorem shift_target (h : b ≠ a) : shift x i a b i b = x i b + 1 := by simp [shift, unit, h]

theorem shift_fits (hx : ∀ k l, x k l ≠ 0 → p.fits k l) (hb : p.fits i b) :
    ∀ k l, shift x i a b k l ≠ 0 → p.fits k l := by
  intro k l h
  by_cases e : k = i ∧ l = b
  · rw [e.1, e.2]
    exact hb
  · refine hx k l ?_
    unfold shift unit at h
    rw [if_neg e] at h
    omega

theorem Solves.shift (h : p.Solves x) (ha : x i a ≠ 0) (hb : p.fits i b) (hne : b ≠ a)
    (room : ∑ k, x k b < p.held b) : p.Solves (shift x i a b) where
  fits := shift_fits h.fits hb
  met k := (sum_shift_row ha k).trans (h.met k)
  within j := by
    have hc := sum_shift_column (b := b) ha j
    have := h.within j
    by_cases e : j = b
    · subst e
      rw [if_neg hne, if_pos rfl] at hc
      omega
    · rw [if_neg e] at hc
      omega

/-- What a slot gives to one requirement is within what it gives in all. -/
theorem le_column (x : Fin m → Fin n → ℕ) (i : Fin m) (j : Fin n) : x i j ≤ ∑ k, x k j :=
  Finset.single_le_sum (f := fun k => x k j) (fun _ _ => Nat.zero_le _) (Finset.mem_univ i)

theorem ofFn_lt_iff {α : Type} [LT α] {n : ℕ} {f g : Fin n → α} :
    List.ofFn f < List.ofFn g ↔ ∃ i, (∀ k < i, f k = g k) ∧ f i < g i := by
  simp only [List.lt_iff_exists, List.length_ofFn, lt_irrefl, and_false, false_or,
    List.getElem_ofFn]
  constructor
  · rintro ⟨i, h, _, before, hlt⟩
    exact ⟨⟨i, h⟩, fun k hk => before k hk, hlt⟩
  · rintro ⟨i, before, hlt⟩
    exact ⟨i, i.isLt, i.isLt, fun k hk => before ⟨k, hk.trans i.isLt⟩ hk, hlt⟩

/-- Tables are compared at the first share in which they differ. -/
theorem reading_lt_iff :
    reading x < reading y ↔
      ∃ i j, (∀ k < i, x k = y k) ∧ (∀ l < j, x i l = y i l) ∧ x i j < y i j := by
  unfold reading
  rw [ofFn_lt_iff]
  constructor
  · rintro ⟨i, rows, hlt⟩
    obtain ⟨j, before, hlt⟩ := ofFn_lt_iff.mp hlt
    exact ⟨i, j, fun k hk => List.ofFn_injective (rows k hk), before, hlt⟩
  · rintro ⟨i, j, rows, before, hlt⟩
    exact ⟨i, fun k hk => congrArg List.ofFn (rows k hk), ofFn_lt_iff.mpr ⟨j, before, hlt⟩⟩

theorem reading_lt_shift (hlt : b < a) : reading x < reading (shift x i a b) := by
  refine reading_lt_iff.mpr ⟨i, b, ?_, ?_, ?_⟩
  · intro k hk
    funext l
    exact (shift_other hk.ne l).symm
  · intro l hl
    exact (shift_before (hl.trans hlt).ne hl.ne).symm
  · rw [shift_target hlt.ne]
    exact Nat.lt_succ_self _

/-- If one of two sums that agree has the smaller term at some place, it has the larger one at
another. -/
theorem exists_lt_of_sum_le {ι : Type} [Fintype ι] {f g : ι → ℕ} (h : ∑ i, g i ≤ ∑ i, f i) {j : ι}
    (hj : f j < g j) : ∃ l, g l < f l := by
  by_contra hn
  push Not at hn
  have := Finset.sum_lt_sum (fun l _ => hn l) ⟨j, Finset.mem_univ j, hj⟩
  omega

structure Splits (p : Problem m n) (k : ℕ) (z w : Fin m → Fin n → ℕ) : Prop where
  fits₁ : ∀ i j, z i j ≠ 0 → p.fits i j
  fits₂ : ∀ i j, w i j ≠ 0 → p.fits i j
  met₁ : ∀ i, ∑ j, z i j = p.need i
  met₂ : ∀ i, ∑ j, w i j = k * p.need i
  within : ∀ j, ∑ i, z i j + ∑ i, w i j ≤ p.held j

namespace Splits

variable {k : ℕ}

theorem solves (h : p.Splits k z w) : p.Solves z where
  fits := h.fits₁
  met := h.met₁
  within j := by
    have := h.within j
    omega

theorem rest (h : p.Splits k z w) : ((p.without z).times k).Solves w where
  fits := h.fits₂
  met := h.met₂
  within j := by
    have := h.within j
    rw [times_held, without_held]
    omega

theorem first (h : p.Splits k z w) : (p.without w).Solves z where
  fits := h.fits₁
  met := h.met₁
  within j := by
    have := h.within j
    rw [without_held]
    omega

theorem shift_first (h : p.Splits k z w) (ha : z i a ≠ 0) (hb : p.fits i b) (hne : b ≠ a)
    (room : ∑ i, z i b + ∑ i, w i b < p.held b) : p.Splits k (shift z i a b) w := by
  have left : ∑ i, z i b < (p.without w).held b := by
    rw [without_held]
    omega
  have moved := h.first.shift ha hb hne left
  refine ⟨moved.fits, h.fits₂, moved.met, h.met₂, ?_⟩
  intro j
  have := h.within j
  have : ∑ l, shift z i a b l j ≤ p.held j - ∑ l, w l j := moved.within j
  omega

/-- One requirement moves from slot `a` to slot `b` for the first time, another one back for the
times after it. -/
theorem shift_both (h : p.Splits k z w) {i' : Fin m} (ha : z i a ≠ 0) (hb : p.fits i b)
    (hb' : w i' b ≠ 0) (ha' : p.fits i' a) : p.Splits k (shift z i a b) (shift w i' b a) where
  fits₁ := shift_fits h.fits₁ hb
  fits₂ := shift_fits h.fits₂ ha'
  met₁ i := (sum_shift_row ha i).trans (h.met₁ i)
  met₂ i := (sum_shift_row hb' i).trans (h.met₂ i)
  within j := by
    have := h.within j
    have := sum_shift_column (b := b) ha j
    have := sum_shift_column (b := a) hb' j
    omega

theorem shift_first_both (h : p.Splits k z w) {i' : Fin m} (hne : i' ≠ i) (ha : z i a ≠ 0)
    (hb : p.fits i b) (hb' : z i' b ≠ 0) (ha' : p.fits i' a) :
    p.Splits k (shift (shift z i a b) i' b a) w := by
  have hb'' : shift z i a b i' b ≠ 0 := by rwa [shift_other hne]
  refine ⟨shift_fits (shift_fits h.fits₁ hb) ha', h.fits₂, ?_, h.met₂, ?_⟩
  · intro k
    exact (sum_shift_row hb'' k).trans ((sum_shift_row ha k).trans (h.met₁ k))
  · intro j
    have := h.within j
    have := sum_shift_column (b := b) ha j
    have := sum_shift_column (b := a) hb'' j
    omega

/-- As long as the first serving is behind a solution, it can be moved towards it. -/
theorem improve (ordered : p.Orderly) (hx : p.Solves x) (h : p.Splits k z w)
    (hlt : reading z < reading x) : ∃ z' w', p.Splits k z' w' ∧ reading z < reading z' := by
  obtain ⟨i, j, rows, before, hij⟩ := reading_lt_iff.mp hlt
  have sums : ∑ l, x i l ≤ ∑ l, z i l := by rw [hx.met, h.met₁]
  obtain ⟨l, hl⟩ := exists_lt_of_sum_le sums hij
  have hjl : j < l := by
    rcases lt_trichotomy l j with e | rfl | e
    · have := before l e
      omega
    · omega
    · exact e
  have hz : z i l ≠ 0 := by omega
  have fj : p.fits i j := hx.fits i j (by omega)
  have fl : p.fits i l := h.fits₁ i l hz
  by_cases room : ∑ k, z k j + ∑ k, w k j < p.held j
  · exact ⟨_, w, h.shift_first hz fj hjl.ne room, reading_lt_shift hjl⟩
  by_cases again : ∃ i', w i' j ≠ 0
  · obtain ⟨i', hw⟩ := again
    have fl' := ordered i j l hjl fj fl i' (h.fits₂ i' j hw)
    exact ⟨_, _, h.shift_both hz fj hw fl', reading_lt_shift hjl⟩
  -- slot `j` is used up, and for the first serving alone: a later row takes more of it than in `x`
  · push Not at again
    have column : ∑ k, x k j ≤ ∑ k, z k j := by
      have := hx.within j
      rw [Finset.sum_eq_zero fun k _ => again k] at room
      omega
    obtain ⟨i', hi'⟩ := exists_lt_of_sum_le (f := fun k => z k j) (g := fun k => x k j) column hij
    have hii' : i < i' := by
      rcases lt_trichotomy i' i with e | rfl | e
      · have := congrFun (rows i' e) j
        omega
      · omega
      · exact e
    have hz' : z i' j ≠ 0 := by omega
    have fl' := ordered i j l hjl fj fl i' (h.fits₁ i' j hz')
    refine ⟨_, w, h.shift_first_both hii'.ne' hz fj hz' fl', reading_lt_iff.mpr ⟨i, j, ?_, ?_, ?_⟩⟩
    · intro k hk
      funext c
      rw [shift_other (hk.trans hii').ne, shift_other hk.ne]
    · intro c hc
      rw [shift_other hii'.ne, shift_before (hc.trans hjl).ne hc.ne]
    · rw [shift_other hii'.ne, shift_target hjl.ne]
      exact Nat.lt_succ_self _

theorem le_held (h : p.Splits k z w) (i : Fin m) (j : Fin n) : z i j ≤ p.held j := by
  have := le_column z i j
  have := h.within j
  omega

end Splits

/-- Numbers can be lowered to any smaller sum. -/
theorem exists_le_sum_eq {ι : Type} [DecidableEq ι] (s : Finset ι) (f : ι → ℕ) {t : ℕ}
    (h : t ≤ ∑ i ∈ s, f i) : ∃ g : ι → ℕ, (∀ i, g i ≤ f i) ∧ ∑ i ∈ s, g i = t := by
  induction t with
  | zero => exact ⟨fun _ => 0, fun i => Nat.zero_le _, by simp⟩
  | succ t ih =>
    obtain ⟨g, hg, rfl⟩ := ih (by omega)
    obtain ⟨j, hj, hlt⟩ : ∃ j ∈ s, g j < f j := by
      by_contra hn
      push Not at hn
      have := Finset.sum_le_sum hn
      omega
    refine ⟨Function.update g j (g j + 1), ?_, ?_⟩
    · intro i
      by_cases e : i = j
      · subst e
        rw [Function.update_self]
        omega
      · rw [Function.update_of_ne e]
        exact hg i
    · rw [Finset.sum_update_of_mem hj]
      have := Finset.add_sum_erase s g hj
      rw [Finset.sdiff_singleton_eq_erase]
      omega

theorem exists_splits {k : ℕ} (h : (p.times (k + 1)).Solvable) : ∃ z w, p.Splits k z w := by
  obtain ⟨y, hy⟩ := h
  have rows : ∀ i, ∃ f : Fin n → ℕ, (∀ j, f j ≤ y i j) ∧ ∑ j, f j = p.need i := by
    intro i
    refine exists_le_sum_eq Finset.univ (y i) ?_
    rw [hy.met i, times_need]
    exact Nat.le_mul_of_pos_left _ (Nat.succ_pos k)
  choose z hz hs using rows
  refine ⟨z, fun i j => y i j - z i j, ?_, ?_, hs, ?_, ?_⟩
  · intro i j h
    have := hz i j
    exact hy.fits i j (by omega)
  · intro i j h
    exact hy.fits i j (by omega)
  · intro i
    have met := hy.met i
    have : ∑ j, (y i j - z i j) + ∑ j, z i j = ∑ j, y i j := by
      rw [← Finset.sum_add_distrib]
      exact Finset.sum_congr rfl fun j _ => Nat.sub_add_cancel (hz i j)
    have : (k + 1) * p.need i = k * p.need i + p.need i := Nat.succ_mul k _
    have : ∑ j, y i j = (k + 1) * p.need i := met
    have := hs i
    omega
  · intro j
    have : ∑ i, z i j + ∑ i, (y i j - z i j) = ∑ i, y i j := by
      rw [← Finset.sum_add_distrib]
      exact Finset.sum_congr rfl fun i _ => Nat.add_sub_cancel' (hz i j)
    rw [this]
    exact hy.within j

/-- Among all ways to serve the requirements once and then `k` times, one begins with the canonical
solution. -/
theorem Canonical.leaves {k : ℕ} (hx : p.Canonical x) (ordered : p.Orderly)
    (h : (p.times (k + 1)).Solvable) : ((p.without x).times k).Solvable := by
  have finite : {z | ∃ w, p.Splits k z w}.Finite := by
    refine (Set.Finite.pi' fun _ => Set.Finite.pi' fun j => Set.finite_Iic (p.held j)).subset ?_
    rintro z ⟨w, hz⟩
    exact fun i j => hz.le_held i j
  obtain ⟨z, ⟨w, hz⟩, top⟩ := Set.exists_max_image _ reading finite (exists_splits h)
  have same : z = x := by
    refine reading_injective (le_antisymm (hx.2 z hz.solves) (not_lt.mp fun hlt => ?_))
    obtain ⟨z', w', hz', higher⟩ := hz.improve ordered hx.1 hlt
    exact absurd higher (not_lt.mpr (top z' ⟨w', hz'⟩))
  exact ⟨w, same ▸ hz.rest⟩

end RobotTeam.Problem
