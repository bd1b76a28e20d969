import RobotTeam.Proofs.Matching.Classes

/-! Shares of the classes on hand for the classes that are wanted. They tell how many instances a class
receives, whatever list of bounds the instances came from, and exist exactly where no group of classes
needs more than what is on hand at or below its members. -/

namespace RobotTeam

open Redundancy

variable {ω : Type} [Ontology ω]

/-- A class on hand gives only to classes at or above it, and to all of them no more than it holds. -/
structure Shares (o : ω) (wanted onHand : Finset Iri) (held : Iri → ℕ) (x : Iri → Iri → ℕ) : Prop where
  fits : ∀ q ∈ wanted, ∀ c ∈ onHand, x q c ≠ 0 → Ontology.isSubclass o c q = true
  within : ∀ c ∈ onHand, ∑ q ∈ wanted, x q c ≤ held c

def received (onHand : Finset Iri) (x : Iri → Iri → ℕ) (q : Iri) : ℕ := ∑ c ∈ onHand, x q c

def Bound.models (bounds : List Bound) : Finset Iri := (bounds.map Bound.model).toFinset

theorem Bound.mem_models {bounds : List Bound} {b : Bound} (hb : b ∈ bounds) :
    b.model ∈ models bounds := List.mem_toFinset.mpr (List.mem_map_of_mem hb)

def Restriction.classes (restrictions : List Restriction) : Finset Iri :=
  (restrictions.map qualification).toFinset

theorem Restriction.mem_classes {restrictions : List Restriction} {q : Iri} :
    q ∈ classes restrictions ↔ q ∈ restrictions.map qualification := List.mem_toFinset

theorem Bound.Merged.models_eq {restrictions : List Restriction} {bounds : List Bound}
    (h : Merged restrictions bounds) : Bound.models bounds = Restriction.classes restrictions := by
  ext q
  rw [Restriction.mem_classes, ← h.models]
  exact List.mem_toFinset

namespace Shares

variable {o : ω} {wanted : Finset Iri} {bounds : List Bound} {x : Iri → Iri → ℕ} {need : Iri → ℕ}

/-- If every class receives what it needs, no group of classes is short. -/
theorem enough (h : Shares o wanted (Bound.models bounds) (Bound.holds bounds) x)
    (met : ∀ q ∈ wanted, need q ≤ received (Bound.models bounds) x q)
    (unasked : ∀ q, q ∉ wanted → need q = 0) (group : Finset Iri) :
    ∑ q ∈ group, need q ≤ picked (below o group) bounds := by
  -- a class of the group receives from below the group only
  have outside : ∀ q ∈ group, ∀ c ∈ Bound.models bounds, q ∈ wanted → below o group c ≠ true →
      x q c = 0 := by
    intro q hq c hc asked away
    by_contra used
    exact away (decide_eq_true ⟨q, hq, h.fits q asked c hc used⟩)
  calc ∑ q ∈ group, need q
      = ∑ q ∈ group with q ∈ wanted, need q := by
        refine (Finset.sum_filter_of_ne fun q _ asks => ?_).symm
        by_contra hn
        exact asks (unasked q hn)
    _ ≤ ∑ q ∈ group with q ∈ wanted, ∑ c ∈ Bound.models bounds, x q c :=
        Finset.sum_le_sum fun q hq => met q (Finset.mem_filter.mp hq).2
    _ = ∑ q ∈ group with q ∈ wanted, ∑ c ∈ Bound.models bounds with below o group c = true, x q c := by
        refine Finset.sum_congr rfl fun q hq => (Finset.sum_filter_of_ne fun c hc used => ?_).symm
        obtain ⟨inGroup, asked⟩ := Finset.mem_filter.mp hq
        by_contra away
        exact used (outside q inGroup c hc asked away)
    _ = ∑ c ∈ Bound.models bounds with below o group c = true, ∑ q ∈ group with q ∈ wanted, x q c :=
        Finset.sum_comm
    _ ≤ ∑ c ∈ Bound.models bounds with below o group c = true, Bound.holds bounds c := by
        refine Finset.sum_le_sum fun c hc => le_trans ?_ (h.within c (Finset.mem_filter.mp hc).1)
        refine Finset.sum_le_sum_of_subset fun q hq => (Finset.mem_filter.mp hq).2
    _ = picked (below o group) bounds := (picked_eq_sum_holds _ bounds fun b => Bound.mem_models).symm

end Shares

section Tables

variable {wanted onHand : List Bound}

def byClass (wanted onHand : List Bound) (t : Fin wanted.length → Fin onHand.length → ℕ)
    (q c : Iri) : ℕ :=
  ∑ i with (wanted.get i).model = q, ∑ j with (onHand.get j).model = c, t i j

theorem model_mem_models (bounds : List Bound) (i : Fin bounds.length) :
    (bounds.get i).model ∈ Bound.models bounds := Bound.mem_models (List.get_mem _ _)

theorem holds_eq_sum (bounds : List Bound) (c : Iri) :
    Bound.holds bounds c = ∑ j with (bounds.get j).model = c, (bounds.get j).max := by
  have sum := picked_ofFn (fun d => decide (d = c)) bounds.get
  rw [List.ofFn_get, picked_eq_holds] at sum
  rw [sum, Finset.sum_filter]
  simp

theorem needs_eq_sum (bounds : List Bound) (q : Iri) :
    Bound.needs bounds q = ∑ i with (bounds.get i).model = q, (bounds.get i).min := by
  have sum := sum_needs bounds {q}
  rw [Finset.sum_singleton] at sum
  rw [sum, Finset.sum_filter]
  simp

variable {o : ω} {t : Fin wanted.length → Fin onHand.length → ℕ}

theorem shares_byClass (ht : (Problem.ofBounds o wanted.get onHand.get).Solves t) :
    Shares o (Bound.models wanted) (Bound.models onHand) (Bound.holds onHand)
      (byClass wanted onHand t) := by
  constructor
  · intro q _ c _ used
    obtain ⟨i, hi, used⟩ := Finset.exists_ne_zero_of_sum_ne_zero used
    obtain ⟨j, hj, used⟩ := Finset.exists_ne_zero_of_sum_ne_zero used
    rw [← (Finset.mem_filter.mp hi).2, ← (Finset.mem_filter.mp hj).2]
    exact ht.fits i j used
  · intro c _
    calc ∑ q ∈ Bound.models wanted, byClass wanted onHand t q c
        = ∑ i, ∑ j with (onHand.get j).model = c, t i j :=
          Finset.sum_fiberwise_of_maps_to (fun i _ => model_mem_models wanted i) _
      _ = ∑ j with (onHand.get j).model = c, ∑ i, t i j := Finset.sum_comm
      _ ≤ ∑ j with (onHand.get j).model = c, (onHand.get j).max :=
          Finset.sum_le_sum fun j _ => ht.within j
      _ = Bound.holds onHand c := (holds_eq_sum onHand c).symm

theorem received_byClass (ht : (Problem.ofBounds o wanted.get onHand.get).Solves t) (q : Iri) :
    received (Bound.models onHand) (byClass wanted onHand t) q = Bound.needs wanted q := by
  calc received (Bound.models onHand) (byClass wanted onHand t) q
      = ∑ i with (wanted.get i).model = q, ∑ c ∈ Bound.models onHand,
          ∑ j with (onHand.get j).model = c, t i j := Finset.sum_comm
    _ = ∑ i with (wanted.get i).model = q, (wanted.get i).min := by
        refine Finset.sum_congr rfl fun i _ => ?_
        rw [Finset.sum_fiberwise_of_maps_to fun j _ => model_mem_models onHand j]
        exact ht.met i
    _ = Bound.needs wanted q := (needs_eq_sum wanted q).symm

/-- The classes can receive exactly what they need if and only if no group of them is short. -/
theorem exists_shares_iff (o : ω) (wanted onHand : List Bound) :
    (∃ x, Shares o (Bound.models wanted) (Bound.models onHand) (Bound.holds onHand) x ∧
      ∀ q ∈ Bound.models wanted, received (Bound.models onHand) x q = Bound.needs wanted q) ↔
    ∀ group : Finset Iri, ∑ c ∈ group, Bound.needs wanted c ≤ picked (below o group) onHand := by
  constructor
  · rintro ⟨x, hx, met⟩
    refine hx.enough (fun q hq => (met q hq).ge) fun q unasked => ?_
    rw [needs_eq_sum, Finset.filter_eq_empty_iff.mpr, Finset.sum_empty]
    rintro i - rfl
    exact unasked (model_mem_models wanted i)
  · intro h
    -- Hall's condition gives a table between the bounds, which is added up by their classes
    obtain ⟨t, ht⟩ := (solvable_iff_groups o wanted onHand).mpr h
    exact ⟨_, shares_byClass ht, fun q _ => received_byClass ht q⟩

end Tables

end RobotTeam
