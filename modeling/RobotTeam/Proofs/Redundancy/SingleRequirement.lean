import RobotTeam.Proofs.Redundancy.Leftovers
import RobotTeam.Proofs.Redundancy.Outcome

/-! A single requirement of `need` instances. Full rounds take `need` instances each; every instance
left over counts as one stand-in more. -/

namespace RobotTeam

namespace Problem

variable {n k : ℕ} {p : Problem 1 n}

theorem solvable_one_iff [DecidablePred (p.fits 0)] :
    p.Solvable ↔ p.need 0 ≤ ∑ j, if p.fits 0 j then p.held j else 0 := by
  constructor
  · rintro ⟨x, hx⟩
    rw [← hx.met 0]
    refine Finset.sum_le_sum fun j _ => ?_
    have within := (le_column x 0 j).trans (hx.within j)
    by_cases h : p.fits 0 j
    · rwa [if_pos h]
    · rw [not_not.mp fun used => h (hx.fits 0 j used)]
      exact Nat.zero_le _
  · intro h
    obtain ⟨g, hg, sum⟩ := exists_le_sum_eq Finset.univ _ h
    refine ⟨fun _ => g, ?_, ?_, ?_⟩
    · intro i j used
      rw [Subsingleton.elim i 0]
      by_contra unfit
      have := hg j
      rw [if_neg unfit] at this
      omega
    · intro i
      rw [Subsingleton.elim i 0]
      exact sum
    · intro j
      rw [Fin.sum_univ_one]
      refine (hg j).trans ?_
      split <;> omega

/-- The need is taken `k` times, and all of it from the slots that are picked. -/
theorem Solves.sum_left {x : Fin 1 → Fin n → ℕ} (hx : (p.times k).Solves x) (pick : Fin n → Bool)
    (all : ∀ j, p.fits 0 j → pick j = true) :
    (∑ j, if pick j then p.held j - ∑ i, x i j else 0) + k * p.need 0 =
      ∑ j, if pick j then p.held j else 0 := by
  rw [← times_need, ← hx.met 0, ← Finset.sum_add_distrib]
  refine Finset.sum_congr rfl fun j _ => ?_
  have within := hx.within j
  rw [Fin.sum_univ_one] at within ⊢
  by_cases h : pick j = true
  · rw [if_pos h, if_pos h]
    exact Nat.sub_add_cancel within
  · rw [if_neg h, if_neg h]
    exact not_not.mp fun used => h (all j (hx.fits 0 j (by simpa using used)))

end Problem

namespace Redundancy

open Problem

def picked (pick : Iri → Bool) (bounds : List Bound) : ℕ :=
  Bound.total (bounds.filter fun b => pick b.model)

/-- The instances that restrictions allow of the classes that are picked. -/
def inStock (pick : Iri → Bool) (available : List Restriction) (onHand : List Iri) : ℕ :=
  (onHand.map fun c => if pick c then Bound.highest available c else 0).sum

structure Stock (onHand : List Iri) (available : List Restriction) : Prop where
  counts : ∀ r ∈ available, r.Counts
  limited : Limited available
  classes : (available.map Restriction.qualification).Perm onHand

section Picked

variable {n : ℕ} (pick : Iri → Bool)

theorem picked_eq_sum (bounds : List Bound) : picked pick bounds =
    (bounds.map fun b => if pick b.model then b.max else 0).sum := by
  unfold picked
  induction bounds with
  | nil => rfl
  | cons b rest ih =>
    rw [List.map_cons, List.sum_cons, ← ih]
    by_cases h : pick b.model = true <;> simp [Bound.total, h]

theorem picked_ofFn (b : Fin n → Bound) :
    picked pick (List.ofFn b) = ∑ j, if pick (b j).model then (b j).max else 0 := by
  rw [picked_eq_sum, List.map_ofFn, List.sum_ofFn]
  rfl

theorem picked_merged {available : List Restriction} {onHand : List Iri} {bounds : List Bound}
    (merged : Bound.Merged available bounds) (distinct : onHand.Nodup)
    (classes : (available.map Restriction.qualification).Perm onHand) :
    picked pick bounds = inStock pick available onHand := by
  have models : (bounds.map Bound.model).Perm onHand := by
    refine (List.perm_ext_iff_of_nodup merged.nodup distinct).mpr ?_
    intro model
    rw [merged.models, classes.mem_iff]
  rw [picked_eq_sum, inStock, ← (models.map _).sum_eq, List.map_map]
  refine congrArg List.sum (List.map_congr_left ?_)
  intro b hb
  rw [Function.comp_apply, merged.max_eq b hb]

end Picked

variable {ω P : Type} [Ontology ω] (o : ω)

/-- A class whose instances the rounds can take for a requirement of the class. -/
def fits (q c : Iri) : Bool := Ontology.isSubclass o c q

theorem supply_singleton (r : Survivability P) (bounds : List Bound) :
    supply o [r] bounds = picked (serves o · r.qualification) bounds := by
  simp [supply, usable, picked]

section Single

variable {q : Iri} {need most k : ℕ} {onHand rest : List Bound}

/-- If the requirement is the only one, the rounds take its instances from what is picked. -/
theorem Exhausted.picked_left (h : Exhausted o [⟨q, need, most⟩] onHand k rest) (pick : Iri → Bool)
    (all : ∀ c, fits o q c = true → pick c = true) :
    picked pick rest + k * need = picked pick onHand := by
  obtain ⟨x, left, rfl, hx, -, hleft⟩ := h.taken
  have sums := hx.sum_left (fun j => pick (onHand.get j).model) fun j => all _
  have whole := picked_ofFn pick onHand.get
  rw [List.ofFn_get] at whole
  rw [picked_ofFn, whole]
  refine Eq.trans ?_ sums
  refine congrArg (· + k * need) (Finset.sum_congr rfl fun j _ => ?_)
  rw [(hleft j).1, (hleft j).2]
  rfl

theorem Exhausted.picked_lt (h : Exhausted o [⟨q, need, most⟩] onHand k rest) :
    picked (fits o q) rest < need := by
  obtain ⟨x, left, rfl, -, stuck, -⟩ := h.taken
  have decidable : DecidablePred ((ofBounds o [⟨q, need, most⟩].get left).fits 0) := fun j =>
    inferInstanceAs (Decidable (fits o q (left j).model = true))
  rw [solvable_one_iff, not_le] at stuck
  rw [picked_ofFn]
  refine lt_of_eq_of_lt (Finset.sum_congr rfl fun j _ => ?_) stuck
  exact if_congr Iff.rfl rfl rfl

/-- There are as many rounds as fit, and the remainder is left of what is picked. -/
theorem Exhausted.count_left (h : Exhausted o [⟨q, need, most⟩] onHand k rest) :
    picked (fits o q) onHand / need = k ∧
      picked (fits o q) onHand % need = picked (fits o q) rest := by
  have few := h.picked_lt o
  rw [← h.picked_left o (fits o q) fun c hc => hc]
  constructor
  · rw [Nat.add_mul_div_right _ _ (Nat.zero_lt_of_lt few), Nat.div_eq_of_lt few, Nat.zero_add]
  · rw [Nat.add_mul_mod_self_right, Nat.mod_eq_of_lt few]

end Single

/-- Instances that the rounds cannot take, while leftovers can be handed out of them: those of the
class itself, if it is not said to be below itself. -/
def spare (q : Iri) (available : List Restriction) (onHand : List Iri) : ℕ :=
  inStock (fun c => serves o c q && !fits o q c) available onHand

theorem inStock_serves (q : Iri) (available : List Restriction) (onHand : List Iri) :
    inStock (serves o · q) available onHand =
      inStock (fits o q) available onHand + spare o q available onHand := by
  unfold spare inStock
  rw [← List.sum_map_add]
  refine congrArg List.sum (List.map_congr_left fun c _ => ?_)
  cases h : Ontology.isSubclass o c q <;> simp [serves, fits, h]

theorem inStock_fits_le (q : Iri) (available : List Restriction) (onHand : List Iri) :
    inStock (fits o q) available onHand ≤ inStock (serves o · q) available onHand := by
  rw [inStock_serves]
  exact Nat.le_add_right _ _

theorem Stock.assessable {onHand : List Iri} {available : List Restriction}
    (stock : Stock onHand available) (property q : Iri) {need : ℕ} (positive : 0 < need) :
    ∃ most bounds, Assessable [.object property q need .min] available [⟨q, need, most⟩] bounds := by
  have counts : ∀ r ∈ [Restriction.object property q need .min] ++ available, r.Counts := by
    intro r hr
    rcases List.mem_cons.mp hr with rfl | hr
    · exact ⟨rfl, by simp [Restriction.object]⟩
    · exact stock.counts r hr
  obtain ⟨wanted, bounds, posed⟩ := exists_posed (List.cons_ne_nil _ _) counts
  obtain rfl := (Bound.merged_of_merge posed.wanted_eq).singleton
  refine ⟨_, bounds, posed, ?_, posed.limited stock.limited⟩
  intro b hb
  rw [List.mem_singleton.mp hb]
  exact positive

/-- How often a single requirement is met: once for every full round, and once for every instance
that is left over. -/
def redundancy (q : Iri) (need : ℕ) (available : List Restriction) (onHand : List Iri) : ℕ :=
  inStock (fits o q) available onHand / need + inStock (fits o q) available onHand % need +
    spare o q available onHand

theorem redundancy_le {q : Iri} {need : ℕ} (positive : 0 < need) (available : List Restriction)
    (onHand : List Iri) :
    redundancy o q need available onHand ≤ inStock (serves o · q) available onHand := by
  rw [redundancy, inStock_serves]
  refine Nat.add_le_add_right ?_ _
  calc inStock (fits o q) available onHand / need + inStock (fits o q) available onHand % need
      ≤ need * (inStock (fits o q) available onHand / need) +
          inStock (fits o q) available onHand % need :=
        Nat.add_le_add_right (Nat.le_mul_of_pos_left _ positive) _
    _ = inStock (fits o q) available onHand := Nat.div_add_mod _ need

variable [Mul P] [Div P] [Sub P] [LT P] [DecidableLT P] [OfNat P 0] [OfNat P 1]

/-- The assessment shows what two counters show: one has counted the rounds, and the one of the record
goes on from it with the leftovers. -/
theorem run_assess_single (m : Scale P) (s : Session Allocation) (property q : Iri) {need : ℕ}
    (positive : 0 < need) {onHand : List Iri} (distinct : onHand.Nodup)
    {available : List Restriction} (stock : Stock onHand available) :
    (Query.run o (m.assess o [.object property q need .min] available) s).1 =
      if Count.wrapped (inStock (fits o q) available onHand / need) = 0 then
        .error (.unmetMinimum (.unmetRequirements 1))
      else .ok [.create q need (m.base q)
        (Count.wrapped (redundancy o q need available onHand))] := by
  obtain ⟨most, bounds, ready⟩ := stock.assessable property q positive
  obtain ⟨k, rest, -, spent, hrun⟩ := ready.run_assess m o s
  have merged := Bound.merged_of_merge ready.onHand_eq
  have total := fun pick => picked_merged pick merged distinct stock.classes
  obtain ⟨count, left⟩ := spent.count_left o
  have handed := spent.picked_left o (serves o · q) fun c h => by
    simp [serves, show Ontology.isSubclass o c q = true from h]
  have taken := Nat.div_add_mod (inStock (fits o q) available onHand) need
  rw [total] at count left handed
  rw [inStock_serves] at handed
  rw [count, left, Nat.mul_comm] at taken
  rw [hrun, count]
  by_cases zero : Count.wrapped k = 0
  · rw [if_pos zero, if_pos zero]
    rfl
  · have more : k + picked (serves o · q) rest = redundancy o q need available onHand := by
      rw [redundancy, count, left]
      omega
    have shown : Count.wrapped (Count.wrapped k + picked (serves o · q) rest) =
        Count.wrapped (redundancy o q need available onHand) := by
      rw [Count.wrapped_add_wrapped, more]
    rw [if_neg zero, if_neg zero, List.map_cons, List.map_nil, handOut_singleton, supply_singleton,
      Survivability.grown_eq (Count.wrapped_le k)]
    exact congrArg (fun n => Except.ok [Survivability.create q need (m.base q) n]) shown

/-- If a counter can show how many instances there are, it shows the redundancy as it is. -/
theorem run_assess_counted (m : Scale P) (s : Session Allocation) (property q : Iri) {need : ℕ}
    (positive : 0 < need) {onHand : List Iri} (distinct : onHand.Nodup)
    {available : List Restriction} (stock : Stock onHand available)
    (few : inStock (serves o · q) available onHand ≤ Count.limit) :
    (Query.run o (m.assess o [.object property q need .min] available) s).1 =
      if inStock (fits o q) available onHand < need then
        .error (.unmetMinimum (.unmetRequirements 1))
      else .ok [.create q need (m.base q) (redundancy o q need available onHand)] := by
  have rounds : inStock (fits o q) available onHand / need ≤ Count.limit :=
    (Nat.div_le_self _ _).trans ((inStock_fits_le o q available onHand).trans few)
  rw [run_assess_single o m s property q positive distinct stock, Count.wrapped_of_le rounds,
    Count.wrapped_of_le ((redundancy_le o positive available onHand).trans few)]
  exact if_congr (Nat.div_eq_zero_iff_lt positive) rfl rfl

end Redundancy

end RobotTeam
