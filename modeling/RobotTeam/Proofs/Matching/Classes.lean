import RobotTeam.Proofs.Matching.Shortage
import RobotTeam.Proofs.Redundancy.SingleRequirement

/-! Matching problems seen by classes. Whether requirements can be served depends only on what they
need of each class and on what is on hand of each class, not on how many bounds there are or in which
order they stand: no group of classes may need more than what is on hand at or below its members. -/

namespace RobotTeam

namespace Bound

def needs (bounds : List Bound) (model : Iri) : ℕ :=
  Pool.amount (bounds.map fun b => (b.model, b.min)) model

def holds (bounds : List Bound) (model : Iri) : ℕ :=
  Pool.amount (bounds.map fun b => (b.model, b.max)) model

variable {restrictions : List Restriction} {bounds : List Bound}

section Amounts

variable (w : Bound → ℕ)

theorem map_fst_amounts (bounds : List Bound) :
    (bounds.map fun b => (b.model, w b)).map Prod.fst = bounds.map Bound.model := by
  rw [List.map_map]
  rfl

theorem Merged.amount_eq (h : Merged restrictions bounds) {b : Bound} (hb : b ∈ bounds) :
    Pool.amount (bounds.map fun b => (b.model, w b)) b.model = w b :=
  Pool.amount_of_mem (map_fst_amounts w bounds ▸ h.nodup) (List.mem_map_of_mem hb)

theorem Merged.amount_eq_zero (h : Merged restrictions bounds) {model : Iri}
    (unnamed : model ∉ restrictions.map Restriction.qualification) :
    Pool.amount (bounds.map fun b => (b.model, w b)) model = 0 := by
  apply Pool.amount_of_not_mem
  rw [map_fst_amounts]
  exact mt (h.models model).mp unnamed

end Amounts

theorem Merged.needs_eq (h : Merged restrictions bounds) (model : Iri) :
    needs bounds model = lowest restrictions model := by
  by_cases named : model ∈ restrictions.map Restriction.qualification
  · obtain ⟨b, hb, rfl⟩ := List.mem_map.mp ((h.models model).mpr named)
    rw [← h.min_eq b hb]
    exact h.amount_eq Bound.min hb
  · rw [lowest_of_not_mem named]
    exact h.amount_eq_zero Bound.min named

theorem Merged.holds_eq (h : Merged restrictions bounds) {model : Iri}
    (named : model ∈ restrictions.map Restriction.qualification) :
    holds bounds model = highest restrictions model := by
  obtain ⟨b, hb, rfl⟩ := List.mem_map.mp ((h.models model).mpr named)
  rw [← h.max_eq b hb]
  exact h.amount_eq Bound.max hb

end Bound

namespace Redundancy

variable {ω : Type} [Ontology ω] (o : ω)

/-- A class whose instances serve some class of the group. -/
def below (group : Finset Iri) (c : Iri) : Bool := decide (∃ q ∈ group, fits o q c = true)

theorem sum_needs (bounds : List Bound) (group : Finset Iri) : ∑ c ∈ group, Bound.needs bounds c =
    ∑ i, if (bounds.get i).model ∈ group then (bounds.get i).min else 0 := by
  have sum := Pool.sum_amount (fun _ => 1) (bounds.map fun b => (b.model, b.min)) group
  simp only [Nat.one_mul, List.map_map] at sum
  refine sum.trans ?_
  rw [← List.sum_ofFn]
  refine congrArg List.sum (List.ext_getElem ?_ ?_) <;> simp

theorem picked_eq_sum_holds (pick : Iri → Bool) (bounds : List Bound) {classes : Finset Iri}
    (all : ∀ b ∈ bounds, b.model ∈ classes) :
    picked pick bounds = ∑ c ∈ classes with pick c = true, Bound.holds bounds c := by
  have sum := Pool.sum_amount (fun _ => 1) (bounds.map fun b => (b.model, b.max))
    (classes.filter fun c => pick c = true)
  simp only [Nat.one_mul, List.map_map] at sum
  refine Eq.trans ?_ sum.symm
  rw [picked_eq_sum]
  refine congrArg List.sum (List.map_congr_left fun b hb => ?_)
  simp [all b hb]

theorem picked_entries (pick : Iri → Bool) (entries : List (Iri × ℕ)) :
    picked pick (entries.map fun e => ⟨e.1, 0, e.2⟩) =
      ((entries.filter fun e => pick e.1).map Prod.snd).sum := by
  rw [picked, List.filter_map]
  show Bound.total ((entries.filter fun e => pick e.1).map _) = _
  generalize entries.filter (fun e => pick e.1) = kept
  induction kept with
  | nil => rfl
  | cons e rest ih => exact congrArg (e.2 + ·) ih

theorem picked_eq_holds (bounds : List Bound) (model : Iri) :
    picked (fun c => decide (c = model)) bounds = Bound.holds bounds model := by
  rw [picked_eq_sum]
  induction bounds with
  | nil => rfl
  | cons b rest ih =>
    rw [List.map_cons, List.sum_cons, ih]
    exact congrArg (· + _) (if_congr (decide_eq_true_iff) rfl rfl)

theorem picked_le {pick more : Iri → Bool} (h : ∀ c, pick c = true → more c = true)
    (bounds : List Bound) : picked pick bounds ≤ picked more bounds := by
  rw [picked_eq_sum, picked_eq_sum]
  apply List.sum_le_sum
  intro b _
  by_cases hb : pick b.model = true
  · rw [if_pos hb, if_pos (h _ hb)]
  · rw [if_neg hb]
    exact Nat.zero_le _

/-- If no bound serves two classes of the group, the group has as much as its classes have. -/
theorem sum_picked_le (group : Finset Iri) {bounds : List Bound}
    (apart : ∀ b ∈ bounds, ∀ p ∈ group, ∀ q ∈ group,
      fits o p b.model = true → fits o q b.model = true → p = q) :
    ∑ q ∈ group, picked (fits o q) bounds ≤ picked (below o group) bounds := by
  simp only [picked_eq_sum]
  induction bounds with
  | nil => simp
  | cons b rest ih =>
    simp only [List.map_cons, List.sum_cons, Finset.sum_add_distrib]
    refine Nat.add_le_add ?_ (ih fun t ht => apart t (List.mem_cons_of_mem b ht))
    by_cases served : below o group b.model = true
    · obtain ⟨p, hp, fit⟩ := of_decide_eq_true served
      rw [if_pos served, Finset.sum_eq_single_of_mem p hp, if_pos fit]
      intro q hq other
      exact if_neg fun fit' => other (apart b List.mem_cons_self q hq p hp fit' fit)
    · rw [if_neg served]
      refine (Finset.sum_eq_zero fun q hq => if_neg ?_).le
      exact fun fit => served (decide_eq_true ⟨q, hq, fit⟩)

/-- What is picked grows with what is on hand of each class. -/
theorem picked_mono (pick : Iri → Bool) {before after : List Bound}
    (more : ∀ c, Bound.holds before c ≤ Bound.holds after c) :
    picked pick before ≤ picked pick after := by
  have left : ∀ b ∈ before, b.model ∈ ((before ++ after).map Bound.model).toFinset := by
    intro b hb
    rw [List.mem_toFinset]
    exact List.mem_map_of_mem (List.mem_append_left after hb)
  have right : ∀ b ∈ after, b.model ∈ ((before ++ after).map Bound.model).toFinset := by
    intro b hb
    rw [List.mem_toFinset]
    exact List.mem_map_of_mem (List.mem_append_right before hb)
  rw [picked_eq_sum_holds pick before left, picked_eq_sum_holds pick after right]
  apply Finset.sum_le_sum
  intro c _
  exact more c

theorem solvable_iff_groups (wanted onHand : List Bound) :
    (Problem.ofBounds o wanted.get onHand.get).Solvable ↔
      ∀ group : Finset Iri, ∑ c ∈ group, Bound.needs wanted c ≤ picked (below o group) onHand := by
  have whole : ∀ group, picked (below o group) onHand =
      ∑ j with below o group (onHand.get j).model = true, (onHand.get j).max := by
    intro group
    have fin := picked_ofFn (below o group) onHand.get
    rw [List.ofFn_get] at fin
    rw [fin, Finset.sum_filter]
  constructor
  · rintro ⟨x, hx⟩ group
    have enough := hx.not_short (Finset.univ.filter fun i => (wanted.get i).model ∈ group)
    rw [Problem.Short, not_lt] at enough
    rw [sum_needs, ← Finset.sum_filter, whole]
    refine enough.trans (Finset.sum_le_sum_of_subset ?_)
    intro j hj
    obtain ⟨i, hi, fit⟩ := Problem.mem_serving.mp hj
    rw [Finset.mem_filter] at hi ⊢
    exact ⟨Finset.mem_univ j, decide_eq_true ⟨_, hi.2, fit⟩⟩
  · intro h
    apply Problem.solvable_of_not_short
    intro group short
    -- the classes of a short group of requirements are short as well
    have enough := h (group.image fun i => (wanted.get i).model)
    rw [sum_needs, ← Finset.sum_filter, whole] at enough
    refine absurd (short.trans_le (le_trans ?_ (enough.trans ?_))) (lt_irrefl _)
    · refine Finset.sum_le_sum_of_subset ?_
      intro i hi
      rw [Finset.mem_filter]
      exact ⟨Finset.mem_univ i, Finset.mem_image_of_mem _ hi⟩
    · refine Finset.sum_le_sum_of_subset ?_
      intro j hj
      obtain ⟨-, served⟩ := Finset.mem_filter.mp hj
      obtain ⟨q, hq, fit⟩ := of_decide_eq_true served
      obtain ⟨i, hi, rfl⟩ := Finset.mem_image.mp hq
      exact Problem.mem_serving.mpr ⟨i, hi, fit⟩

end Redundancy

end RobotTeam
