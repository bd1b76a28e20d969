import RobotTeam.Pool.SubPools
import RobotTeam.Proofs.Pool.Counts
import Mathlib.Data.List.Nodup

/-! The odometer counts. After `n` moves its wheels show the digits of `n`, the first wheel the
lowest digit, where the base of a wheel is one more than the count of its model. It stops after as
many positions as the product of the bases. -/

namespace RobotTeam

namespace SubPools

def positions (entries : List (Iri × ℕ)) : ℕ := Count.product (entries.map fun e => e.2 + 1)

def wheelsAt : List (Iri × ℕ) → ℕ → List Wheel
  | [], _ => []
  | e :: rest, n => ⟨e.1, n % (e.2 + 1), e.2⟩ :: wheelsAt rest (n / (e.2 + 1))

def position (entries : List (Iri × ℕ)) (n : ℕ) : Option (List Wheel) :=
  if n < positions entries then some (wheelsAt entries n) else none

variable {e : Iri × ℕ} {entries rest : List (Iri × ℕ)} {n q r : ℕ}

theorem positions_cons (e : Iri × ℕ) (rest : List (Iri × ℕ)) :
    positions (e :: rest) = (e.2 + 1) * positions rest := rfl

theorem positions_pos (entries : List (Iri × ℕ)) : 0 < positions entries := by
  induction entries with
  | nil => exact Nat.one_pos
  | cons e rest ih =>
    rw [positions_cons]
    exact Nat.mul_pos (Nat.succ_pos e.2) ih

theorem exists_digit (n most : ℕ) : ∃ q r, n = (most + 1) * q + r ∧ r ≤ most :=
  ⟨n / (most + 1), n % (most + 1), (Nat.div_add_mod n (most + 1)).symm,
    Nat.le_of_lt_succ (Nat.mod_lt n (Nat.succ_pos most))⟩

theorem wheelsAt_cons (hr : r ≤ e.2) :
    wheelsAt (e :: rest) ((e.2 + 1) * q + r) = ⟨e.1, r, e.2⟩ :: wheelsAt rest q := by
  have lt : r < e.2 + 1 := Nat.lt_succ_of_le hr
  rw [wheelsAt, Nat.mul_add_mod, Nat.mod_eq_of_lt lt, Nat.mul_add_div (Nat.succ_pos e.2),
    Nat.div_eq_of_lt lt, Nat.add_zero]

theorem lt_positions_cons (hr : r ≤ e.2) :
    (e.2 + 1) * q + r < positions (e :: rest) ↔ q < positions rest := by
  rw [positions_cons]
  constructor
  · intro h
    by_contra hn
    have := Nat.mul_le_mul_left (e.2 + 1) (Nat.le_of_not_lt hn)
    omega
  · intro h
    have := Nat.mul_le_mul_left (e.2 + 1) (Nat.succ_le_of_lt h)
    rw [Nat.mul_succ] at this
    omega

theorem position_cons (hr : r ≤ e.2) : position (e :: rest) ((e.2 + 1) * q + r) =
    (position rest q).map (⟨e.1, r, e.2⟩ :: ·) := by
  unfold position
  by_cases h : q < positions rest
  · rw [if_pos ((lt_positions_cons hr).mpr h), if_pos h, wheelsAt_cons hr]
    rfl
  · rw [if_neg (mt (lt_positions_cons hr).mp h), if_neg h]
    rfl

/-- Moving on leads to the position with the next number, and past the last one to none. -/
theorem next_position (entries : List (Iri × ℕ)) (n : ℕ) :
    (position entries n).bind next? = position entries (n + 1) := by
  induction entries generalizing n with
  | nil =>
    have stop : position [] (n + 1) = none := if_neg (by simp [positions])
    rw [stop, Option.bind_eq_none_iff]
    intro wheels h
    unfold position at h
    split at h
    · cases h
      rfl
    · cases h
  | cons e rest ih =>
    obtain ⟨q, r, rfl, hr⟩ := exists_digit n e.2
    rw [position_cons hr]
    rcases Nat.lt_or_eq_of_le hr with hlt | rfl
    · rw [Nat.add_assoc, position_cons (Nat.succ_le_of_lt hlt)]
      cases position rest q with
      | none => rfl
      | some wheels => exact if_pos hlt
    · have carry : (e.2 + 1) * q + e.2 + 1 = (e.2 + 1) * (q + 1) + 0 := by rw [Nat.mul_succ]; rfl
      rw [carry, position_cons (Nat.zero_le e.2), ← ih]
      cases position rest q with
      | none => rfl
      | some wheels => exact if_neg (Nat.lt_irrefl e.2)

theorem run_go_position (entries : List (Iri × ℕ)) (k n : ℕ) (seen : List (List Wheel)) :
    run.go k (position entries n) seen =
      (seen.reverse ++ (List.range' n (min k (positions entries - n))).map (wheelsAt entries),
        position entries (n + k)) := by
  induction k generalizing n seen with
  | zero => simp [run.go]
  | succ k ih =>
    by_cases h : n < positions entries
    · have here : position entries n = some (wheelsAt entries n) := if_pos h
      have next : next? (wheelsAt entries n) = position entries (n + 1) := by
        rw [← next_position, here]
        rfl
      have more :
          min (k + 1) (positions entries - n) = min k (positions entries - (n + 1)) + 1 := by omega
      rw [here, run.go, next, ih, more, List.range'_succ, List.map_cons, List.reverse_cons,
        List.append_assoc, Nat.add_right_comm, Nat.add_assoc]
      rfl
    · have here : position entries n = none := if_neg h
      have later : position entries (n + (k + 1)) = none := if_neg (by omega)
      have none : positions entries - n = 0 := by omega
      rw [here, later, none, run.go, Nat.min_zero, List.range'_zero, List.map_nil, List.append_nil]

theorem wheelsAt_zero (entries : List (Iri × ℕ)) :
    wheelsAt entries 0 = entries.map fun e => ⟨e.1, 0, e.2⟩ := by
  induction entries with
  | nil => rfl
  | cons e rest ih => rw [wheelsAt, Nat.zero_mod, Nat.zero_div, ih, List.map_cons]

/-- From the start the odometer goes through the positions in the order of their numbers. -/
theorem run_start (p : Pool) (k : ℕ) : run k (some (start p)) =
    ((List.range (min k (number p))).map (wheelsAt p.entries), position p.entries k) := by
  have first : some (start p) = position p.entries 0 := by
    rw [position, if_pos (positions_pos _), wheelsAt_zero, start]
  have := run_go_position p.entries k 0 []
  rw [Nat.zero_add, Nat.sub_zero, ← List.range_eq_range', List.reverse_nil, List.nil_append] at this
  rw [first, run, this]
  rfl

end SubPools

end RobotTeam
