import RobotTeam.Proofs.Redundancy.Agreement

/-! Services that share resources against services that need resources of their own. For a single
service there is no difference, and what suffices for exclusive use suffices for shared use, since no
sum of minimums is less than the largest of them; smaller requirements are met more often, though, and
a counter has to show how often. Shared use does not look at counts. -/

namespace RobotTeam

namespace Pool

end Pool

namespace Redundancy

variable {ω P : Type} [Ontology ω] {a : Organization ω}

section Shared

variable {minima : Std.ExtTreeMap Iri ℕ} {restrictions : List Restriction} {model : Iri}

theorem getD_addShared (r : Restriction) : (addShared minima r).getD model 0 =
    if r.qualification = model then max (minima.getD model 0) r.cardinality
    else minima.getD model 0 := by
  rw [addShared, Std.ExtTreeMap.getD_insert]
  by_cases named : r.qualification = model
  · subst named
    rw [if_pos Std.ReflCmp.compare_self, if_pos rfl]
  · rw [if_neg (mt Std.LawfulEqCmp.compare_eq_iff_eq.mp named), if_neg named]

theorem mem_addShared (r : Restriction) :
    model ∈ addShared minima r ↔ r.qualification = model ∨ model ∈ minima := by
  rw [addShared, Std.ExtTreeMap.mem_insert, Std.LawfulEqCmp.compare_eq_iff_eq]

/-- Restrictions that only set minimums raise the minimum of a class to the largest one they set. -/
theorem getD_addSharedAll (minimums : ∀ r ∈ restrictions, r.kind = .min) :
    (restrictions.foldl addShared minima).getD model 0 =
      max (minima.getD model 0) (Bound.lowest restrictions model) := by
  induction restrictions generalizing minima with
  | nil => exact (Nat.max_zero _).symm
  | cons r rest ih =>
    have least : r.least = r.cardinality := by
      rw [Restriction.least, minimums r List.mem_cons_self]
    rw [List.foldl_cons, ih fun t ht => minimums t (List.mem_cons_of_mem r ht), getD_addShared,
      Bound.lowest_cons, least]
    split
    · exact Nat.max_assoc _ _ _
    · rfl

theorem mem_addSharedAll : model ∈ restrictions.foldl addShared minima ↔
    model ∈ restrictions.map Restriction.qualification ∨ model ∈ minima := by
  induction restrictions generalizing minima with
  | nil => simp
  | cons r rest ih =>
    rw [List.foldl_cons, ih, mem_addShared, List.map_cons, List.mem_cons, eq_comm, or_left_comm,
      or_assoc]

end Shared

section Needs

variable (a) in
def addService (minima : Std.ExtTreeMap Iri ℕ) (service : Iri) : Std.ExtTreeMap Iri ℕ :=
  ((a.requiredKey service).total a.ontology).foldl addShared minima

variable (a) in
/-- The largest minimum that one of the services sets on a class. -/
def sharedMinima (services : List Iri) : Std.ExtTreeMap Iri ℕ := services.foldl (addService a) ∅

variable (a) in
def exclusiveKey (required : Pool) : TotalKey := ⟨required, a.settings.property, .min, false⟩

variable (a) in
def needed (shared : Bool) (required : Pool) : List Restriction :=
  if shared then
    (sharedMinima a required.models).toList.map fun e => .object a.settings.property e.1 e.2 .min
  else (exclusiveKey a required).total a.ontology

variable {services : List Iri} {service model : Iri}

theorem kind_of_mem_required {r : Restriction}
    (hr : r ∈ (a.requiredKey service).total a.ontology) : r.kind = .min := by
  obtain ⟨model, -, rfl⟩ := (TotalKey.mem_total _ _).mp hr
  rfl

theorem getD_addService (minima : Std.ExtTreeMap Iri ℕ) : (addService a minima service).getD model 0 =
    max (minima.getD model 0) (Bound.lowest ((a.requiredKey service).total a.ontology) model) :=
  getD_addSharedAll fun _ hr => kind_of_mem_required hr

theorem mem_addService (minima : Std.ExtTreeMap Iri ℕ) : model ∈ addService a minima service ↔
    model ∈ (a.requiredKey service).sums a.ontology ∨ model ∈ minima := by
  rw [addService, mem_addSharedAll, TotalKey.map_qualification_total, Std.ExtTreeMap.mem_keys]

theorem getD_sharedMinima_le_iff {n : ℕ} : (sharedMinima a services).getD model 0 ≤ n ↔
    ∀ s ∈ services, Bound.lowest ((a.requiredKey s).total a.ontology) model ≤ n := by
  unfold sharedMinima
  -- Every service raises the minimums before it, so the induction starts from any minimums.
  suffices ∀ minima : Std.ExtTreeMap Iri ℕ, (services.foldl (addService a) minima).getD model 0 ≤ n ↔
      minima.getD model 0 ≤ n ∧
        ∀ s ∈ services, Bound.lowest ((a.requiredKey s).total a.ontology) model ≤ n by
    rw [this ∅, Std.ExtTreeMap.getD_empty]
    exact and_iff_right (Nat.zero_le n)
  induction services with
  | nil => simp
  | cons s rest ih =>
    intro minima
    rw [List.foldl_cons, ih, getD_addService, Nat.max_le, List.forall_mem_cons, and_assoc]

theorem mem_sharedMinima : model ∈ sharedMinima a services ↔
    ∃ s ∈ services, model ∈ (a.requiredKey s).sums a.ontology := by
  unfold sharedMinima
  suffices ∀ minima : Std.ExtTreeMap Iri ℕ, model ∈ services.foldl (addService a) minima ↔
      (∃ s ∈ services, model ∈ (a.requiredKey s).sums a.ontology) ∨ model ∈ minima by
    rw [this ∅]
    simp
  induction services with
  | nil => simp
  | cons s rest ih =>
    intro minima
    rw [List.foldl_cons, ih, mem_addService, List.exists_mem_cons_iff, or_left_comm, or_assoc]

end Needs

section Comparison

variable {required : Pool} {model : Iri}

theorem mem_exclusiveKey : model ∈ (exclusiveKey a required).sums a.ontology ↔
    model ∈ sharedMinima a required.models := by
  rw [TotalKey.mem_sums, mem_sharedMinima, ← Pool.map_fst_entries]
  simp only [Organization.mem_requiredKey]
  constructor
  · rintro ⟨e, he, asked⟩
    exact ⟨e.1, List.mem_map_of_mem he, asked⟩
  · rintro ⟨s, hs, asked⟩
    obtain ⟨e, he, rfl⟩ := List.mem_map.mp hs
    exact ⟨e, he, asked⟩

theorem lowest_exclusive (required : Pool) (model : Iri) :
    Bound.lowest ((exclusiveKey a required).total a.ontology) model =
      Count.capped ((exclusiveKey a required).amount a.ontology model) :=
  TotalKey.lowest_total a.ontology rfl model

/-- Where the minimums of all models come to something, one of them does. -/
theorem lowest_shared_pos
    (asked : 0 < Bound.lowest ((exclusiveKey a required).total a.ontology) model) :
    0 < (sharedMinima a required.models).getD model 0 := by
  by_contra none
  have zero := getD_sharedMinima_le_iff.mp (Nat.le_of_not_lt none)
  rw [lowest_exclusive] at asked
  refine absurd asked (Nat.not_lt.mpr ((Count.capped_le_self _).trans (Nat.le_of_eq ?_)))
  refine List.sum_eq_zero fun n hn => ?_
  obtain ⟨e, he, rfl⟩ := List.mem_map.mp hn
  have known : e.1 ∈ required.models := Pool.map_fst_entries required ▸ List.mem_map_of_mem he
  have least := zero e.1 known
  rw [TotalKey.lowest_total a.ontology rfl, Organization.amount_requiredKey, Count.capped] at least
  have declared : Restriction.declared .min (a.declaredBy e.1) model = 0 := by
    unfold Count.limit at least
    omega
  exact (congrArg (· * e.2) declared).trans (Nat.zero_mul _)

theorem counts_needed (shared : Bool) (required : Pool) : ∀ r ∈ needed a shared required, r.Counts := by
  cases shared with
  | false => exact TotalKey.counts_total a.ontology (Or.inl rfl)
  | true =>
    intro r hr
    obtain ⟨e, -, rfl⟩ := List.mem_map.mp hr
    exact ⟨rfl, by simp [Restriction.object]⟩

theorem lowest_needed_shared (required : Pool) (model : Iri) :
    Bound.lowest (needed a true required) model = (sharedMinima a required.models).getD model 0 :=
  Bound.lowest_toList a.settings.property (sharedMinima a required.models) model

theorem mem_needed (shared : Bool) :
    model ∈ (needed a shared required).map Restriction.qualification ↔
      model ∈ sharedMinima a required.models := by
  cases shared with
  | false =>
    rw [← mem_exclusiveKey, ← Std.ExtTreeMap.mem_keys, ← TotalKey.map_qualification_total]
    rfl
  | true =>
    rw [← Std.ExtTreeMap.mem_keys, ← Std.ExtTreeMap.map_fst_toList_eq_keys, needed, if_pos rfl,
      List.map_map]
    rfl

/-- What can be assessed for exclusive use can be assessed for shared use. -/
theorem Assessable.shared {available : List Restriction} {wanted onHand : List Bound}
    (h : Assessable (needed a false required) available wanted onHand) :
    ∃ wanted', Assessable (needed a true required) available wanted' onHand := by
  have asked : needed a true required ≠ [] := by
    obtain ⟨r, hr⟩ := List.exists_mem_of_ne_nil _ h.asked
    have named := (mem_needed true).mpr ((mem_needed false).mp (List.mem_map_of_mem hr))
    rintro none
    rw [none] at named
    cases named
  obtain ⟨wanted', hw⟩ := Bound.merge_ok_iff.mpr (counts_needed (a := a) true required)
  refine ⟨wanted', ⟨asked, ?_, hw, h.onHand_eq⟩, ?_, h.limited⟩
  · intro r hr
    rcases List.mem_append.mp hr with hr | hr
    · exact counts_needed true required r hr
    · exact h.counts r (List.mem_append_right _ hr)
  · intro b hb
    have merged := Bound.merged_of_merge hw
    have named := (mem_needed true).mp ((merged.models b.model).mp (List.mem_map_of_mem hb))
    have before := Bound.merged_of_merge h.wanted_eq
    obtain ⟨c, hc, same⟩ := List.mem_map.mp ((before.models b.model).mpr ((mem_needed false).mpr named))
    have positive := h.positive c hc
    rw [before.min_eq c hc, same] at positive
    rw [merged.min_eq b hb, lowest_needed_shared]
    exact lowest_shared_pos positive

end Comparison

variable [Mul P] [Div P] [Sub P] [LT P] [DecidableLT P] [OfNat P 0] [OfNat P 1]

section Answers

variable {μ : Type} [Matcher μ ω] (m : Scale P)

end Answers

section Winches

end Winches

section Depot

end Depot

end Redundancy

end RobotTeam
