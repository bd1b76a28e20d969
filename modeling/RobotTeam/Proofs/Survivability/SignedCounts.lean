import RobotTeam.Proofs.Survivability
import Mathlib.Algebra.Order.GroupWithZero.Basic
import Mathlib.Algebra.Order.Ring.Rat
import Mathlib.Tactic.NormNum

/-! Survival probabilities over all counts of 32 bits. A count is a signed exponent, so that from 2^31
on the power is the reciprocal of another one. Up to there a record has the probabilities that its
numbers stand for; beyond, only where the base is zero or one and the power does not matter. -/

namespace RobotTeam.Survivability

section Powers

variable {P : Type} [Field P]

theorem power_eq_zpow (a : P) (n : ℤ) : power a n = a ^ n := by
  rw [power, powerOnto_eq, one_mul]
  cases n with
  | ofNat n => exact (if_neg (by simp)).trans (zpow_natCast a n).symm
  | negSucc n =>
    rw [if_pos (Int.negSucc_lt_zero n), Int.natAbs_negSucc, zpow_negSucc, one_div]

theorem stage_of_lt {r : Survivability P} (h : r.minimum < 2147483648) : r.stage = r.base ^ r.minimum :=
  power_of_lt r.base h

theorem stage_of_one {r : Survivability P} (base : r.base = 1) : r.stage = r.base ^ r.minimum := by
  rw [stage, power_eq_zpow, base, one_zpow, one_pow]

theorem signed_neg {n : ℕ} (large : 2147483648 ≤ n) (h : n ≤ Count.limit) : Count.signed n < 0 := by
  have limit : n ≤ 4294967295 := h
  unfold Count.signed
  rw [Int.bmod_def]
  omega

theorem signed_nonneg {n : ℕ} (h : n < 2147483648) : 0 ≤ Count.signed n := by
  unfold Count.signed
  rw [Int.bmod_def]
  omega

end Powers

section Records

variable {P : Type} [Field P] [LinearOrder P] [IsStrictOrderedRing P] {r : Survivability P}

structure Defined (r : Survivability P) : Prop where
  base : Count.signed r.minimum < 0 → r.base ≠ 0
  failure : Count.signed r.redundancy < 0 → 1 - r.stage ≠ 0

structure Exact (r : Survivability P) : Prop extends Defined r where
  stage_eq : r.stage = r.base ^ r.minimum
  survival_eq : r.survival = r.ideal
  stage_mem : 0 ≤ r.stage ∧ r.stage ≤ 1
  survival_mem : 0 ≤ r.survival ∧ r.survival ≤ 1

def Grows (r : Survivability P) : Prop := r.increment.Defined ∧ r.survival ≤ r.increment.survival

theorem ideal_mem (base : 0 ≤ r.base ∧ r.base ≤ 1) : 0 ≤ r.ideal ∧ r.ideal ≤ 1 := by
  have low : 0 ≤ 1 - r.base ^ r.minimum := sub_nonneg.mpr (pow_le_one₀ base.1 base.2)
  have high : 1 - r.base ^ r.minimum ≤ 1 := sub_le_self 1 (pow_nonneg base.1 _)
  exact ⟨sub_nonneg.mpr (pow_le_one₀ low high), sub_le_self 1 (pow_nonneg low _)⟩

/-- With a power that is a reciprocal, more of the instances would survive than there are. -/
theorem one_lt_stage (positive : 0 < r.base) (less : r.base < 1)
    (reciprocal : Count.signed r.minimum < 0) : 1 < r.stage := by
  rw [stage, power_eq_zpow]
  exact one_lt_zpow_of_neg₀ positive less reciprocal

theorem survival_neg (stage : 0 < r.stage ∧ r.stage ≤ 1) (defined : r.Defined)
    (reciprocal : Count.signed r.redundancy < 0) : r.survival < 0 := by
  have positive : 0 < 1 - r.stage :=
    lt_of_le_of_ne (sub_nonneg.mpr stage.2) (defined.failure reciprocal).symm
  rw [survival, power_eq_zpow, sub_neg]
  exact one_lt_zpow_of_neg₀ positive (sub_lt_self 1 stage.1) reciprocal

theorem exact_of_lt (base : 0 ≤ r.base ∧ r.base ≤ 1) (hm : r.minimum < 2147483648 ∨ r.base = 1)
    (hk : r.redundancy < 2147483648) : r.Exact := by
  have stage_eq : r.stage = r.base ^ r.minimum := hm.elim stage_of_lt stage_of_one
  have survival_eq : r.survival = r.ideal := survival_eq_ideal stage_eq hk
  constructor
  case toDefined =>
    constructor
    · intro reciprocal
      rcases hm with small | one
      · exact absurd (signed_nonneg small) reciprocal.not_ge
      · rw [one]
        exact one_ne_zero
    · intro reciprocal
      exact absurd (signed_nonneg hk) reciprocal.not_ge
  case stage_eq => exact stage_eq
  case survival_eq => exact survival_eq
  case stage_mem =>
    rw [stage_eq]
    exact ⟨pow_nonneg base.1 _, pow_le_one₀ base.1 base.2⟩
  case survival_mem =>
    rw [survival_eq]
    exact ideal_mem base

theorem exact_of_zero (base : r.base = 0) (hm : 0 < r.minimum ∧ r.minimum < 2147483648) :
    r.Exact := by
  have power : r.base ^ r.minimum = 0 := by rw [base, zero_pow hm.1.ne']
  have stage_eq : r.stage = 0 := (stage_of_lt hm.2).trans power
  have survival_eq : r.survival = 0 := by
    rw [survival, stage_eq, power_eq_zpow, sub_zero, one_zpow, sub_self]
  constructor
  case toDefined =>
    constructor
    · intro reciprocal
      exact absurd (signed_nonneg hm.2) reciprocal.not_ge
    · intro _
      rw [stage_eq, sub_zero]
      exact one_ne_zero
  case stage_eq => rw [stage_eq, power]
  case survival_eq => rw [survival_eq, ideal, power, sub_zero, one_pow, sub_self]
  case stage_mem =>
    rw [stage_eq]
    exact ⟨le_rfl, zero_le_one⟩
  case survival_mem =>
    rw [survival_eq]
    exact ⟨le_rfl, zero_le_one⟩

theorem Exact.stage_pos (h : r.Exact) (base : 0 ≤ r.base ∧ r.base ≤ 1)
    (uncertain : ¬(r.base = 0 ∧ 0 < r.minimum)) : 0 < r.stage := by
  rw [h.stage_eq]
  by_cases zero : r.base = 0
  · have empty : r.minimum = 0 := Nat.eq_zero_of_not_pos fun positive => uncertain ⟨zero, positive⟩
    rw [empty, pow_zero]
    exact one_pos
  · exact pow_pos (lt_of_le_of_ne base.1 (Ne.symm zero)) _

theorem exact_iff (base : 0 ≤ r.base ∧ r.base ≤ 1) (hm : r.minimum ≤ Count.limit)
    (hk : r.redundancy ≤ Count.limit) :
    r.Exact ↔ (r.minimum < 2147483648 ∨ r.base = 1) ∧
      (r.redundancy < 2147483648 ∨ r.base = 0 ∧ 0 < r.minimum) := by
  constructor
  · intro h
    constructor
    · by_contra large
      rw [not_or, not_lt] at large
      have reciprocal := signed_neg large.1 hm
      have positive := lt_of_le_of_ne base.1 (h.base reciprocal).symm
      have above := one_lt_stage positive (lt_of_le_of_ne base.2 large.2) reciprocal
      exact absurd h.stage_mem.2 above.not_ge
    · by_contra large
      rw [not_or, not_lt] at large
      have stage := And.intro (h.stage_pos base large.2) h.stage_mem.2
      have below := survival_neg stage h.toDefined (signed_neg large.1 hk)
      exact absurd h.survival_mem.1 below.not_ge
  · rintro ⟨small | one, few | ⟨zero, positive⟩⟩
    · exact exact_of_lt base (Or.inl small) few
    · exact exact_of_zero zero ⟨positive, small⟩
    · exact exact_of_lt base (Or.inr one) few
    · rw [zero] at one
      exact absurd one zero_ne_one

/-- The next stand-in strengthens a record as long as the record stays exact. -/
theorem Exact.grows_iff (h : r.Exact) (base : 0 ≤ r.base ∧ r.base ≤ 1)
    (hm : r.minimum ≤ Count.limit) (hk : r.redundancy < Count.limit) :
    r.Grows ↔ r.redundancy + 1 < 2147483648 ∨ r.base = 0 ∧ 0 < r.minimum := by
  rw [Grows, increment_of_lt hk]
  let t : Survivability P := { r with redundancy := r.redundancy + 1 }
  constructor
  · rintro ⟨defined, grows⟩
    by_contra large
    rw [not_or, not_lt] at large
    have stage := And.intro (h.stage_pos base large.2) h.stage_mem.2
    have below : t.survival < 0 := survival_neg stage defined (signed_neg large.1 hk)
    exact absurd (h.survival_mem.1.trans grows) below.not_ge
  · intro few
    have next : t.Exact :=
      (exact_iff (r := t) base hm hk).mpr ⟨((exact_iff base hm hk.le).mp h).1, few⟩
    refine ⟨next.toDefined, ?_⟩
    rw [h.survival_eq, next.survival_eq]
    exact ideal_mono base (Nat.le_succ r.redundancy)

omit [IsStrictOrderedRing P] in
theorem create_eq (qualification : Iri) {p : P} (low : 0 ≤ p) (high : p ≤ 1) (m k : ℕ) :
    create qualification m p k = ⟨qualification, m, p, k⟩ := by
  rw [create, clamp, if_neg low.not_gt, if_neg high.not_gt]

/-- For which numbers the values of a record are the probabilities that they stand for, and for which
one more stand-in does not lower the survival either. -/
theorem probability_iff (qualification : Iri) {p : P} (low : 0 ≤ p) (high : p ≤ 1) {m k : ℕ}
    (hm : m ≤ Count.limit) (hk : k ≤ Count.limit) :
    ((create qualification m p k).Exact ↔
      (m < 2147483648 ∨ p = 1) ∧ (k < 2147483648 ∨ p = 0 ∧ 0 < m)) ∧
    ((create qualification m p k).Exact ∧
        (k < Count.limit → (create qualification m p k).Grows) ↔
      (m < 2147483648 ∨ p = 1) ∧ (k + 1 < 2147483648 ∨ p = 0 ∧ 0 < m)) := by
  rw [create_eq qualification low high]
  have exactly : Exact ⟨qualification, m, p, k⟩ ↔ _ := exact_iff ⟨low, high⟩ hm hk
  refine ⟨exactly, ?_⟩
  constructor
  · rintro ⟨now, later⟩
    refine ⟨(exactly.mp now).1, ?_⟩
    rcases (exactly.mp now).2 with few | zero
    · have below : k < Count.limit := few.trans (by decide)
      exact (now.grows_iff ⟨low, high⟩ hm below).mp (later below)
    · exact Or.inr zero
  · rintro ⟨first, few⟩
    have now := exactly.mpr ⟨first, few.imp_left Nat.lt_of_succ_lt⟩
    exact ⟨now, fun below => (now.grows_iff ⟨low, high⟩ hm below).mpr few⟩

end Records

/-- With 2^31 - 1 stand-ins for two arms the record is exact, but with one more it is not. -/
theorem probability_arms :
    let crowd : Survivability ℚ := create ⟨"http://team#Arm"⟩ 2 (1 / 2) 2147483647
    ((0 : ℚ) ≤ 1 / 2 ∧ (1 / 2 : ℚ) ≤ 1 ∧ 2 ≤ Count.limit ∧ 2147483647 ≤ Count.limit) ∧
      crowd.Exact ∧ ¬crowd.Grows := by
  intro crowd
  have half : (0 : ℚ) ≤ 1 / 2 ∧ (1 / 2 : ℚ) ≤ 1 := by norm_num
  have iff := probability_iff ⟨"http://team#Arm"⟩ half.1 half.2 (m := 2) (k := 2147483647)
    (by decide) (by decide)
  have now : crowd.Exact := iff.1.mpr ⟨Or.inl (by decide), Or.inl (by decide)⟩
  refine ⟨⟨half.1, half.2, by decide, by decide⟩, now, ?_⟩
  intro grows
  rcases (iff.2.mp ⟨now, fun _ => grows⟩).2 with few | zero
  · exact absurd few (by decide)
  · exact absurd zero.1 (by norm_num)

/-- Of 2^32 - 1 arms in series, each with one half, all would survive with two. -/
theorem not_exact_reciprocal :
    let crowd : Survivability ℚ := create ⟨"http://team#Arm"⟩ 4294967295 (1 / 2) 1
    crowd.stage = 2 ∧ crowd.survival = 2 ∧ ¬crowd.Exact := by
  intro crowd
  have crowd_eq : crowd = ⟨⟨"http://team#Arm"⟩, 4294967295, 1 / 2, 1⟩ :=
    create_eq _ (by norm_num) (by norm_num) _ _
  have stage : crowd.stage = 2 := by
    have last : Count.signed 4294967295 = -1 := by decide
    rw [crowd_eq, Survivability.stage, power_eq_zpow, last]
    norm_num
  have survival : crowd.survival = 2 := by
    have one : Count.signed 1 = 1 := by decide
    rw [Survivability.survival, power_eq_zpow, stage, crowd_eq, one]
    norm_num
  refine ⟨stage, survival, fun h => ?_⟩
  have most := h.stage_mem.2
  rw [stage] at most
  norm_num at most

end RobotTeam.Survivability
