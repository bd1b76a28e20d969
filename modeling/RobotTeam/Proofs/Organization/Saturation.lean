import RobotTeam.Proofs.Organization.Supply
import RobotTeam.Proofs.Query.Interleaving

/-! The number of instances beyond which more of them do not help a service. It is computed by dividing
each requirement by what one instance supplies. That is right although neither the supply of many
instances nor that of one need be an exact multiple: both are cut off at the largest count, which no
requirement exceeds. -/

namespace RobotTeam.Organization

variable {ω : Type} [Ontology ω] {a : Organization ω} {service model : Iri} {k : ℕ}

theorem saturating_le_iff {share cardinality : ℕ} : saturating share cardinality ≤ k ↔
    (0 < share → 1 ≤ k ∧ cardinality ≤ k * share) := by
  unfold saturating
  by_cases none : share = 0
  · rw [if_pos none]
    exact iff_of_true (Nat.zero_le k) fun positive => absurd none positive.ne'
  · have positive := Nat.pos_of_ne_zero none
    rw [if_neg none, Nat.max_le, Nat.div_le_iff_le_mul positive]
    constructor
    · rintro ⟨one, enough⟩ -
      exact ⟨one, by omega⟩
    · intro h
      rcases h positive with ⟨one, enough⟩
      exact ⟨one, by omega⟩

/-- For a requirement that fits 32 bits, multiples may be taken before or after cutting off. -/
theorem le_mul_supply_iff {cardinality : ℕ} (small : cardinality ≤ Count.limit) (one : 1 ≤ k) (q : Iri) :
    cardinality ≤ k * a.supply model 1 q ↔ cardinality ≤ a.supply model k q := by
  rw [supply_eq, supply_eq, Nat.one_mul, Count.le_capped_iff, and_iff_left small]
  by_cases fits : a.offer model q ≤ Count.limit
  · rw [Count.capped_eq fits]
  · have most : Count.capped (a.offer model q) = Count.limit := Nat.min_eq_right (Nat.le_of_not_le fits)
    rw [most]
    apply iff_of_true
    · exact small.trans (Nat.le_mul_of_pos_left _ one)
    · exact small.trans ((Nat.le_of_not_le fits).trans (Nat.le_mul_of_pos_left _ one))

variable (a) in
/-- That many instances meet every requirement that a single one contributes to. -/
def Saturated (service model : Iri) (k : ℕ) : Prop :=
  ∀ r ∈ (a.requiredKey service).total a.ontology, 0 < a.supply model 1 r.qualification →
    r.cardinality ≤ a.supply model k r.qualification

variable (a) in
def bound (service model : Iri) : ℕ :=
  ((a.requiredKey service).total a.ontology).foldl
    (fun bound r => Nat.max bound (saturating (a.supply model 1 r.qualification) r.cardinality)) 0

theorem required_le_limit {r : Restriction} (hr : r ∈ (a.requiredKey service).total a.ontology) :
    r.cardinality ≤ Count.limit := by
  obtain ⟨q, -, rfl⟩ := (TotalKey.mem_total _ _).mp hr
  exact Count.capped_le _

theorem foldl_max_le_iff {required : List Restriction} {w : Restriction → ℕ} {b : ℕ} :
    required.foldl (fun b r => Nat.max b (w r)) b ≤ k ↔ b ≤ k ∧ ∀ r ∈ required, w r ≤ k := by
  induction required generalizing b with
  | nil => simp
  | cons r rest ih => rw [List.foldl_cons, ih, Nat.max_le, List.forall_mem_cons, and_assoc]

theorem bound_le_iff : a.bound service model ≤ k ↔
    ∀ r ∈ (a.requiredKey service).total a.ontology, 0 < a.supply model 1 r.qualification →
      1 ≤ k ∧ r.cardinality ≤ a.supply model k r.qualification := by
  rw [bound, foldl_max_le_iff, and_iff_right (Nat.zero_le k)]
  refine forall₂_congr fun r hr => saturating_le_iff.trans (imp_congr_right fun _ => ?_)
  exact and_congr_right fun one => le_mul_supply_iff (required_le_limit hr) one r.qualification

theorem bound_eq_zero_iff : a.bound service model = 0 ↔
    ∀ r ∈ (a.requiredKey service).total a.ontology, a.supply model 1 r.qualification = 0 := by
  rw [← Nat.le_zero, bound_le_iff]
  refine forall₂_congr fun r _ => ?_
  constructor
  · intro h
    by_contra some
    exact absurd (h (Nat.pos_of_ne_zero some)).1 (by decide)
  · intro none positive
    exact absurd none positive.ne'

theorem bound_isLeast (contributes : 0 < a.bound service model) :
    IsLeast {k | 1 ≤ k ∧ a.Saturated service model k} (a.bound service model) := by
  constructor
  · refine ⟨contributes, fun r hr some => ?_⟩
    exact (bound_le_iff.mp le_rfl r hr some).2
  · rintro k ⟨one, enough⟩
    exact bound_le_iff.mpr fun r hr some => ⟨one, enough r hr some⟩

/-- From the bound on, the same requirements are met. -/
theorem met_of_bound_le (enough : a.bound service model ≤ k) :
    met a.ontology ((a.requiredKey service).total a.ontology)
        ((a.availableKey (Pool.single model k)).total a.ontology) =
      met a.ontology ((a.requiredKey service).total a.ontology)
        ((a.availableKey (Pool.single model (a.bound service model))).total a.ontology) := by
  have same : ∀ r ∈ (a.requiredKey service).total a.ontology,
      (r.cardinality ≤ a.supply model k r.qualification ↔
        r.cardinality ≤ a.supply model (a.bound service model) r.qualification) := by
    intro r hr
    rcases Nat.eq_zero_or_pos (a.supply model 1 r.qualification) with none | some
    · rw [supply_eq_zero none, supply_eq_zero none]
    · apply iff_of_true
      · exact (bound_le_iff.mp enough r hr some).2
      · exact (bound_le_iff.mp le_rfl r hr some).2
  apply List.filter_congr
  intro r hr
  exact decide_eq_decide.mpr (same r hr)

section Services

theorem count_raise (p q : Pool) (m : Iri) : (raise p q).count m = max (p.count m) (q.count m) := by
  rw [← Pool.amount_entries q, raise]
  have keys := q.nodup_fst_entries
  revert keys
  induction q.entries generalizing p with
  | nil => exact fun _ => (Nat.max_zero _).symm
  | cons e rest ih =>
    intro keys
    rw [List.map_cons, List.nodup_cons] at keys
    have step : (if p.count e.1 < e.2 then p.set e.1 e.2 else p).count m =
        if e.1 = m then max (p.count m) e.2 else p.count m := by
      by_cases named : e.1 = m
      · subst named
        rw [if_pos rfl]
        split
        · next less => rw [Pool.count_set, if_pos rfl, Nat.max_eq_right (Nat.le_of_lt less)]
        · next more => rw [Nat.max_eq_left (Nat.le_of_not_lt more)]
      · rw [if_neg named]
        split
        · rw [Pool.count_set, if_neg named]
        · rfl
    rw [List.foldl_cons, ih _ keys.2, step, Pool.amount_cons]
    split
    · next named => rw [Pool.amount_of_not_mem (named ▸ keys.1), Nat.max_zero, Nat.add_zero]
    · rw [Nat.zero_add]

theorem noZeros_raise {p : Pool} (h : p.NoZeros) (q : Pool) : (raise p q).NoZeros := by
  refine List.foldlRecOn _ _ h fun r before e _ => ?_
  split
  · exact before.set e.1 e.2
  · exact before

variable (a) in
def bounds (service : Iri) : Pool := Pool.ofEntries (a.pool.models.map fun m => (m, a.bound service m))

theorem count_bounds (service model : Iri) :
    (a.bounds service).count model = if model ∈ a.pool.models then a.bound service model else 0 := by
  have distinct : a.pool.models.Nodup := Std.ExtTreeMap.nodup_keys
  rw [bounds, Pool.count_ofEntries, Pool.amount_map distinct]

/-- Raising to the bounds of one service after the other leaves the largest. -/
theorem count_raised (services : List Iri) (p : Pool) (model : Iri) :
    (services.foldl (fun p service => raise p (a.bounds service)) p).count model =
      max (p.count model)
        (if model ∈ a.pool.models then services.toFinset.sup fun service => a.bound service model
          else 0) := by
  induction services generalizing p with
  | nil => simp
  | cons service rest ih =>
    rw [List.foldl_cons, ih, count_raise, count_bounds, List.toFinset_cons, Finset.sup_insert]
    split
    · exact Nat.max_assoc _ _ _
    · rw [Nat.max_zero]

theorem noZeros_raised (services : List Iri) :
    (services.foldl (fun p service => raise p (a.bounds service)) ∅).NoZeros :=
  List.foldlRecOn _ _ Pool.noZeros_empty fun _ before service _ => noZeros_raise before (a.bounds service)

variable {μ : Type} [Matcher μ ω]

theorem answer_saturationOfService (service : Iri) (x : μ) :
    (a.saturationOfService service).answer a.ontology x = (a.bounds service, x) := by
  have each : (a.pool.models.mapM fun model => (do
      let bound ← a.saturation service model
      return (model, bound) : Query (Iri × ℕ))).answer a.ontology x =
      (a.pool.models.map fun m => (m, a.bound service m), x) :=
    Query.answer_mapM (fun _ => rfl) a.pool.models
  rw [saturationOfService, Query.answer_bind, each]
  rfl

theorem answer_saturationOfServices (services : Names) (x : μ) :
    (a.saturationOfServices services).answer a.ontology x =
      (services.toList.foldl (fun p service => raise p (a.bounds service)) ∅, x) := by
  refine Query.answer_foldlM (fun p service => ?_) services.toList ∅
  rw [Query.answer_bind, answer_saturationOfService]
  rfl

end Services

section Session

variable {μ : Type} [Matcher μ ω] {s : Session μ}

theorem run_saturation (sound : s.cache.Sound a.ontology) (service model : Iri) :
    (Query.run a.ontology (a.saturation service model) s).1 = a.bound service model :=
  (Query.run_eq_answer (a.saturation service model) sound).1

/-- The bound is zero where a single instance gives nothing to any requirement, and otherwise the least
number of instances that meet every requirement to which a single one gives something. More instances
than that never change the support. For several services the bounds are the largest ones. -/
theorem saturation_least (sound : s.cache.Sound a.ontology) :
    (∀ service model b, (Query.run a.ontology (a.saturation service model) s).1 = b →
      (b = 0 ↔ ∀ r ∈ (a.requiredKey service).total a.ontology,
        a.supply model 1 r.qualification = 0) ∧
      (0 < b → IsLeast {k | 1 ≤ k ∧ a.Saturated service model k} b) ∧
      ∀ k, b ≤ k → ∀ t u : Session μ, t.cache.Sound a.ontology → u.cache.Sound a.ontology →
        (Query.run a.ontology (a.support service model k) t).1 =
          (Query.run a.ontology (a.support service model b) u).1) ∧
    ∀ services : Names,
      (Query.run a.ontology (a.saturationOfServices services) s).1.NoZeros ∧
      ∀ model, (Query.run a.ontology (a.saturationOfServices services) s).1.count model =
        if model ∈ a.pool.models then services.toList.toFinset.sup fun service =>
          (Query.run a.ontology (a.saturation service model) s).1
        else 0 := by
  constructor
  · rintro service model b rfl
    rw [run_saturation sound]
    refine ⟨bound_eq_zero_iff, bound_isLeast, fun k enough t u soundT soundU => ?_⟩
    rw [run_support soundT, run_support soundU, judge, judge, met_of_bound_le enough]
  · intro services
    rw [(Query.run_eq_answer (a.saturationOfServices services) sound).1, answer_saturationOfServices]
    refine ⟨noZeros_raised services.toList, fun model => ?_⟩
    simp only [run_saturation sound]
    rw [count_raised, Pool.count_empty, Nat.zero_max]

section Hoists

def crane : Organization FactBase :=
  ⟨hoists, { property := carries }, .empty (Pool.single hoist 5)⟩

/-- Two hoists have the four hooks that lifting takes, and more hoists are never better than two. -/
theorem saturation_hoists : (Session.fresh (Allocation.mk carries)).cache.Sound crane.ontology ∧
    IsLeast {k | 1 ≤ k ∧ crane.Saturated lifting hoist k} 2 ∧
    (∀ k, 2 ≤ k → (Query.run crane.ontology (crane.support lifting hoist k)
      (.fresh (Allocation.mk carries))).1 = .full) ∧
    (Query.run crane.ontology (crane.saturationOfServices {lifting})
      (.fresh (Allocation.mk carries))).1.count hoist = 2 := by
  have sound : (Session.fresh (Allocation.mk carries)).cache.Sound crane.ontology :=
    Cache.sound_empty crane.ontology
  have two : (Query.run crane.ontology (crane.saturation lifting hoist)
      (.fresh (Allocation.mk carries))).1 = 2 := by decide +kernel
  have full : (Query.run crane.ontology (crane.support lifting hoist 2)
      (.fresh (Allocation.mk carries))).1 = .full := by decide +kernel
  rcases saturation_least (a := crane) sound with ⟨single, several⟩
  rcases single lifting hoist 2 two with ⟨-, least, stays⟩
  refine ⟨sound, least (by decide), fun k enough => ?_, ?_⟩
  · exact (stays k enough _ _ sound sound).trans full
  · have alone : ({lifting} : Names).toList = [lifting] := by decide +kernel
    have stored : hoist ∈ crane.pool.models := by decide +kernel
    rw [(several {lifting}).2 hoist, if_pos stored, alone, List.toFinset_cons, Finset.sup_insert, two]
    rfl

end Hoists

end Session

end RobotTeam.Organization
