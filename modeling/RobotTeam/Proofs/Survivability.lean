import RobotTeam.Survivability
import Mathlib.Algebra.Order.Field.Basic
import Mathlib.Algebra.Order.Ring.Pow

/-! Survival probabilities as powers. Repeated squaring computes the power, so with exact numbers a
record survives with the probability that its numbers stand for, and that grows with its
redundancy. -/

namespace RobotTeam.Survivability

theorem powerOnto_eq {P : Type} [Monoid P] (acc a : P) (n : ℕ) :
    powerOnto acc a n = acc * a ^ n := by
  induction n using Nat.strong_induction_on generalizing acc a with
  | h n ih =>
    have halves : a ^ n = a ^ (n % 2) * (a * a) ^ (n / 2) := by
      rw [← pow_two, ← pow_mul, ← pow_add, Nat.mod_add_div]
    have next : (if n % 2 = 1 then acc * a else acc) = acc * a ^ (n % 2) := by
      rcases Nat.mod_two_eq_zero_or_one n with even | odd
      · simp [even]
      · simp [odd]
    rw [powerOnto, next, halves, ← mul_assoc]
    by_cases small : n < 2
    · rw [dif_pos small, Nat.div_eq_of_lt small, pow_zero, mul_one]
    · rw [dif_neg small, ih (n / 2) (by omega)]

variable {P : Type} [Field P]

theorem power_of_lt (a : P) {n : ℕ} (h : n < 2147483648) : power a (Count.signed n) = a ^ n := by
  have signed : Count.signed n = n := by
    unfold Count.signed
    rw [Int.bmod_eq_of_le] <;> omega
  rw [signed, power, if_neg (by omega), powerOnto_eq, one_mul, Int.natAbs_natCast]

/-- The survival that the numbers of a record stand for. -/
def ideal (r : Survivability P) : P := 1 - (1 - r.base ^ r.minimum) ^ r.redundancy

theorem survival_eq_ideal {r : Survivability P} (stage_eq : r.stage = r.base ^ r.minimum)
    (hk : r.redundancy < 2147483648) : r.survival = r.ideal := by
  rw [survival, power_of_lt _ hk, stage_eq]
  rfl

variable [LinearOrder P] [IsStrictOrderedRing P]

theorem clamp_mem (p : P) : 0 ≤ clamp p ∧ clamp p ≤ 1 := by
  unfold clamp
  split
  · simp
  · next low =>
    split
    · simp
    · next high => exact ⟨not_lt.mp low, not_lt.mp high⟩

/-- One more stand-in never lowers the survival. -/
theorem ideal_mono {r : Survivability P} (base : 0 ≤ r.base ∧ r.base ≤ 1) {k : ℕ}
    (h : r.redundancy ≤ k) : r.ideal ≤ { r with redundancy := k }.ideal := by
  have low : 0 ≤ 1 - r.base ^ r.minimum := sub_nonneg.mpr (pow_le_one₀ base.1 base.2)
  have high : 1 - r.base ^ r.minimum ≤ 1 := sub_le_self 1 (pow_nonneg base.1 _)
  exact sub_le_sub_left (pow_le_pow_of_le_one low high h) 1

end RobotTeam.Survivability
