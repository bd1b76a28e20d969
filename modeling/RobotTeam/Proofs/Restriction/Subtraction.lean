import RobotTeam.Restriction.Solution
import RobotTeam.Proofs.Pool.Counts
import Mathlib.Algebra.Group.Pi.Lemmas

/-! What subtracting a solution does to each bound. The first bound of a model gives all that is used
of the model, which is no more than its maximum. All other bounds stay as they are. -/

namespace RobotTeam

namespace Solution

def uses (s : Solution) (model : Iri) : ℕ :=
  (s.assignments.map fun a => if a.available = model then a.count else 0).sum

theorem uses_append (s t : Solution) :
    (Solution.mk (s.assignments ++ t.assignments)).uses = s.uses + t.uses := by
  funext model
  simp only [uses, List.map_append, List.sum_append, Pi.add_apply]

theorem count_consumed (s : Solution) : s.consumed.count = s.uses := by
  funext model
  rw [consumed, Pool.count_ofEntries, uses]
  induction s.assignments with
  | nil => rfl
  | cons a rest ih => rw [List.map_cons, Pool.amount_cons, ih, List.map_cons, List.sum_cons]

end Solution

namespace Bound

def draw (b : Bound) (n : ℕ) : Bound := if n = 0 then b else b.lower n

inductive Drawn : (Iri → ℕ) → List Bound → List Bound → Prop where
  | nil (used : Iri → ℕ) : Drawn used [] []
  | cons {used : Iri → ℕ} {b : Bound} {rest fewer : List Bound} (fits : used b.model ≤ b.max)
      (later : Drawn (Function.update used b.model 0) rest fewer) :
      Drawn used (b :: rest) (b.draw (used b.model) :: fewer)

variable {b : Bound} {used more : Iri → ℕ} {bounds mid fewer : List Bound}

@[simp] theorem draw_zero (b : Bound) : b.draw 0 = b := rfl

@[simp] theorem draw_model (b : Bound) (n : ℕ) : (b.draw n).model = b.model := by
  unfold draw
  split <;> rfl

theorem draw_max {n : ℕ} (fits : n ≤ b.max) : (b.draw n).max + n = b.max := by
  unfold draw
  split
  · omega
  · exact Nat.sub_add_cancel fits

theorem draw_draw (b : Bound) (n k : ℕ) : (b.draw n).draw k = b.draw (n + k) := by
  rcases b with ⟨model, least, most⟩
  unfold draw lower
  by_cases hn : n = 0
  · simp [hn]
  · by_cases hk : k = 0
    · simp [hn, hk]
    · simp only [hn, hk, if_false, Nat.add_eq_zero_iff, false_and, mk.injEq, true_and]
      rw [Nat.sub_sub]
      refine ⟨(Nat.min_assoc _ _ _).trans ?_, rfl⟩
      exact congrArg (Nat.min least) (Nat.min_eq_right (by omega))

namespace Drawn

theorem refl (bounds : List Bound) : Drawn 0 bounds bounds := by
  induction bounds with
  | nil => exact .nil 0
  | cons b rest ih =>
    have none : Function.update (0 : Iri → ℕ) b.model 0 = 0 := Function.update_zero b.model
    refine .cons (Nat.zero_le b.max) ?_
    rwa [none]

theorem trans (h : Drawn used bounds mid) (k : Drawn more mid fewer) :
    Drawn (used + more) bounds fewer := by
  induction h generalizing more fewer with
  | nil =>
    cases k
    exact .nil _
  | @cons used b rest left fits later ih =>
    cases k with
    | cons fits' later' =>
      rw [draw_model] at fits' later' ⊢
      rw [draw_draw]
      have most := draw_max fits
      refine .cons ?_ ?_
      · show used b.model + more b.model ≤ b.max
        omega
      · have split : Function.update (used + more) b.model 0 =
            Function.update used b.model 0 + Function.update more b.model 0 := by
          rw [← Function.update_add, Nat.add_zero]
        rw [split]
        exact ih later'

theorem none_rises (h : Drawn used bounds fewer) :
    List.Forall₂ (fun b left => left.model = b.model ∧ left.max ≤ b.max) bounds fewer := by
  induction h with
  | nil => exact .nil
  | cons fits later ih =>
    have most := draw_max fits
    apply List.Forall₂.cons _ ih
    exact ⟨draw_model _ _, by omega⟩

end Drawn

section Single

variable {model : Iri} {n : ℕ}

theorem Drawn.first (same : b.model = model) (fits : n ≤ b.max) (rest : List Bound) :
    Drawn (Pool.single model n).count (b :: rest) (b.draw n :: rest) := by
  have here : (Pool.single model n).count b.model = n := by rw [Pool.count_single, if_pos same.symm]
  have none : Function.update (Pool.single model n).count b.model 0 = 0 := by
    funext m
    rw [Function.update_apply, Pool.count_single, same, Pi.zero_apply]
    split
    · rfl
    · next other => exact if_neg (Ne.symm other)
  have drawn := Drawn.cons (by rwa [here]) (none ▸ Drawn.refl rest)
  rwa [here] at drawn

theorem Drawn.skip (other : b.model ≠ model) (h : Drawn (Pool.single model n).count bounds fewer) :
    Drawn (Pool.single model n).count (b :: bounds) (b :: fewer) := by
  have here : (Pool.single model n).count b.model = 0 := by
    rw [Pool.count_single, if_neg other.symm]
  have same := Function.update_eq_self b.model (Pool.single model n).count
  rw [here] at same
  have drawn := Drawn.cons (by rw [here]; exact Nat.zero_le b.max) (same.symm ▸ h)
  rwa [here] at drawn

theorem drawn_take (positive : n ≠ 0) (h : take model n bounds = .ok fewer) :
    Drawn (Pool.single model n).count bounds fewer := by
  induction bounds generalizing fewer with
  | nil => cases h
  | cons b rest ih =>
    rw [take] at h
    split at h
    · next same =>
      split at h
      · cases h
      · next fits =>
        cases h
        have drawn := Drawn.first same (Nat.le_of_not_lt fits) rest
        rwa [draw, if_neg positive] at drawn
    · next other =>
      cases e : take model n rest with
      | error _ =>
        rw [e] at h
        cases h
      | ok left =>
        rw [e] at h
        cases h
        exact Drawn.skip other (ih e)

end Single

theorem drawn_takeAll {entries : List (Iri × ℕ)} (counted : ∀ e ∈ entries, e.2 ≠ 0)
    (h : takeAll entries bounds = .ok fewer) : Drawn (Pool.amount entries) bounds fewer := by
  induction entries generalizing bounds with
  | nil =>
    cases h
    exact Drawn.refl fewer
  | cons e rest ih =>
    rw [takeAll] at h
    split at h
    · next mid first =>
      rw [List.forall_mem_cons] at counted
      have amount : Pool.amount (e :: rest) = (Pool.single e.1 e.2).count + Pool.amount rest := by
        funext m
        rw [Pool.amount_cons, Pi.add_apply, Pool.count_single]
      rw [amount]
      exact (drawn_take counted.1 first).trans (ih counted.2 h)
    · cases h

theorem drawn_subtractFrom {s : Solution} (h : s.subtractFrom bounds = .ok fewer) :
    Drawn s.consumed.count bounds fewer := by
  have amounts : Pool.amount s.consumed.entries = s.consumed.count :=
    funext (Pool.amount_entries s.consumed)
  have counted : s.consumed.NoZeros := Pool.noZeros_ofEntries _
  rw [← amounts]
  exact drawn_takeAll (fun e he => (counted e he).ne') h

end Bound

end RobotTeam
