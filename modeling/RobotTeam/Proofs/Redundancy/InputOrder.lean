import RobotTeam.Proofs.Redundancy.Minimums
import RobotTeam.Redundancy.Table

/-! The order in which requirements and resources are listed does not matter. Merging gives the same
bounds for any order, and as no two records have the same name, sorting them before the first pass
leaves only one order to go on from. -/

namespace RobotTeam

namespace Redundancy

inductive Alike {α : Type} : Except QueryError α → Except QueryError α → Prop where
  | same (result : Except QueryError α) : Alike result result
  | mismatch (reason reason' : Reason) :
    Alike (.error (.typeMismatch reason)) (.error (.typeMismatch reason'))

theorem Alike.map {α β : Type} {a b : Except QueryError α} (h : Alike a b) (f : α → β) :
    Alike (a.map f) (b.map f) := by
  cases h with
  | same result => exact .same _
  | mismatch reason reason' => exact .mismatch reason reason'

variable {required required' available available' : List Restriction}

/-- The bounds of a problem are the same, unless there are none because of a restriction that does not
count; of several such restrictions the first one is reported. -/
theorem bounds_perm (hr : required.Perm required') (ha : available.Perm available') :
    bounds required available = bounds required' available' ∨
      ∃ reason reason', bounds required available = .error (.typeMismatch reason) ∧
        bounds required' available' = .error (.typeMismatch reason') := by
  by_cases asked : required = []
  · subst asked
    left
    rw [hr.nil_eq.symm, bounds_nil, bounds_nil]
  have asked' : required' ≠ [] := fun none => asked (List.Perm.eq_nil (none ▸ hr))
  by_cases counts : ∀ r ∈ required ++ available, r.Counts
  · obtain ⟨wanted, onHand, posed⟩ := exists_posed asked counts
    have posed' : Posed required' available' wanted onHand := by
      refine ⟨asked', fun r h => counts r ((hr.append ha).mem_iff.mpr h), ?_, ?_⟩
      · rw [← posed.wanted_eq]
        exact (Bound.merge_perm hr fun r h => counts r (List.mem_append_left _ h)).symm
      · rw [← posed.onHand_eq]
        exact (Bound.merge_perm ha fun r h => counts r (List.mem_append_right _ h)).symm
    left
    rw [posed.bounds_eq, posed'.bounds_eq]
  · push Not at counts
    obtain ⟨r, h, bad⟩ := counts
    obtain ⟨reason, refused⟩ := bounds_mismatch asked ⟨r, h, bad⟩
    obtain ⟨reason', refused'⟩ := bounds_mismatch asked' ⟨r, (hr.append ha).mem_iff.mp h, bad⟩
    exact .inr ⟨reason, reason', refused, refused'⟩

theorem counts_of_bounds {pair : List Bound × List Bound}
    (h : bounds required available = .ok pair) : ∀ r ∈ required, r.Counts := by
  by_contra bad
  have asked : required ≠ [] := by
    rintro rfl
    simp at bad
  push Not at bad
  obtain ⟨r, hr, bad⟩ := bad
  obtain ⟨reason, refused⟩ := bounds_mismatch asked ⟨r, List.mem_append_left available hr, bad⟩
  rw [h] at refused
  cases refused

variable {ω P : Type} [Ontology ω]

structure Scale.Ranks (m : Scale P) : Prop where
  total : ∀ p q, m.le p q = true ∨ m.le q p = true
  trans : ∀ p q r, m.le p q = true → m.le q r = true → m.le p r = true

section Order

variable [Mul P] [Div P] [Sub P] [OfNat P 1] {m : Scale P}

theorem weaker_iff {r s : Survivability P} : m.weaker r s = true ↔ m.le r.survival s.survival = true ∧
    (m.le s.survival r.survival = true → (compare r.qualification s.qualification).isLE = true) := by
  rw [Scale.weaker, Bool.and_eq_true, Bool.or_eq_true]
  cases m.le s.survival r.survival <;> simp

theorem Scale.Ranks.weaker_total (h : m.Ranks) (r s : Survivability P) :
    (m.weaker r s || m.weaker s r) = true := by
  rw [Bool.or_eq_true, weaker_iff, weaker_iff]
  have names := Bool.or_eq_true_iff.mp (Iri.isLE_total r.qualification s.qualification)
  by_cases below : m.le r.survival s.survival = true
  · by_cases above : m.le s.survival r.survival = true
    · exact names.imp (fun name => ⟨below, fun _ => name⟩) fun name => ⟨above, fun _ => name⟩
    · exact .inl ⟨below, fun le => absurd le above⟩
  · have above := (h.total r.survival s.survival).resolve_left below
    exact .inr ⟨above, fun le => absurd le below⟩

theorem Scale.Ranks.weaker_trans (h : m.Ranks) (r s t : Survivability P)
    (hrs : m.weaker r s = true) (hst : m.weaker s t = true) : m.weaker r t = true := by
  rw [weaker_iff] at hrs hst ⊢
  refine ⟨h.trans _ _ _ hrs.1 hst.1, ?_⟩
  intro back
  exact Std.TransCmp.isLE_trans (hrs.2 (h.trans _ _ _ hst.1 back)) (hst.2 (h.trans _ _ _ back hrs.1))

/-- Ties are resolved by name. -/
theorem qualification_eq_of_weaker {r s : Survivability P} (hrs : m.weaker r s = true)
    (hsr : m.weaker s r = true) : r.qualification = s.qualification := by
  rw [weaker_iff] at hrs hsr
  exact Std.LawfulEqCmp.eq_of_compare (Std.OrientedCmp.isLE_antisymm (hrs.2 hsr.1) (hsr.2 hrs.1))

/-- Records of different names can be put in order in one way only. -/
theorem Scale.Ranks.mergeSort_perm (h : m.Ranks) {records permuted : List (Survivability P)}
    (order : records.Perm permuted) (distinct : (records.map Survivability.qualification).Nodup) :
    records.mergeSort m.weaker = permuted.mergeSort m.weaker := by
  have sorted := fun l => List.pairwise_mergeSort h.weaker_trans h.weaker_total l
  have perm := (List.mergeSort_perm records m.weaker).trans
    (order.trans (List.mergeSort_perm permuted m.weaker).symm)
  refine perm.eq_of_pairwise ?_ (sorted records) (sorted permuted)
  intro r s hr hs hrs hsr
  rw [List.mem_mergeSort] at hr hs
  exact List.inj_on_of_nodup_map distinct hr (order.mem_iff.mpr hs) (qualification_eq_of_weaker hrs hsr)

end Order

theorem handOut_congr (o : ω) (weaker : Survivability P → Survivability P → Bool)
    {records permuted : List (Survivability P)}
    (same : records.mergeSort weaker = permuted.mergeSort weaker) (bounds : List Bound) :
    handOut o weaker records bounds = handOut o weaker permuted bounds := by
  cases pass : handOutOnce o (records.mergeSort weaker) bounds with
  | mk final kept =>
    have pass' : handOutOnce o (permuted.mergeSort weaker) bounds = (final, kept) := same ▸ pass
    rw [handOut, handOut, pass, pass']

theorem Scale.map_qualification_recordOf [LT P] [DecidableLT P] [OfNat P 0] [OfNat P 1]
    (m : Scale P) (count : ℕ) (required : List Restriction) :
    (required.map (m.recordOf count)).map Survivability.qualification =
      required.map Restriction.qualification := by
  rw [List.map_map]
  rfl

variable [Mul P] [Div P] [Sub P] [LT P] [DecidableLT P] [OfNat P 0] [OfNat P 1]

theorem Scale.Ranks.handOut_records {m : Scale P} (ranks : m.Ranks) (o : ω)
    (distinct : (required.map Restriction.qualification).Nodup) (hr : required.Perm required')
    (count : ℕ) (bounds : List Bound) :
    handOut o m.weaker (required.map (m.recordOf count)) bounds =
      handOut o m.weaker (required'.map (m.recordOf count)) bounds := by
  refine handOut_congr o m.weaker (ranks.mergeSort_perm (hr.map _) ?_) bounds
  rwa [m.map_qualification_recordOf]

/-- The bounds are all that the rounds see of the order, and sorting removes it from the records. -/
theorem assess_perm {μ : Type} [Matcher μ ω] {m : Scale P} (ranks : m.Ranks) (o : ω)
    (s : Session μ) (distinct : (required.map Restriction.qualification).Nodup)
    (hr : required.Perm required') (ha : available.Perm available') :
    Alike (Query.run o (m.assess o required available) s).1
      (Query.run o (m.assess o required' available') s).1 := by
  rcases bounds_perm hr ha with same | ⟨reason, reason', refused, refused'⟩
  · cases h : bounds required available with
    | error e =>
      rw [run_assess_error m o s h, run_assess_error m o s (same ▸ h)]
      exact .same _
    | ok pair =>
      obtain ⟨wanted, onHand⟩ := pair
      have counts := counts_of_bounds h
      have counts' : ∀ r ∈ required', r.Counts := fun r hr' => counts r (hr.mem_iff.mpr hr')
      -- The rounds only see the bounds, so both runs go on from the same count and the same leftovers.
      rw [run_assess_ok m o s h rfl, run_assess_ok m o s (same ▸ h) rfl]
      cases ((matchRounds wanted 0 onHand).run o s).1.outcome wanted with
      | error e => exact .same _
      | ok count =>
        simp only [bind, Except.bind, m.records_of_counts count counts,
          m.records_of_counts count counts', ranks.handOut_records o distinct hr]
        exact .same _
  · rw [run_assess_error m o s refused, run_assess_error m o s refused']
    exact .mismatch reason reason'

/-- Requirements of different names and resources can be listed in any order. The records of the
requirements are the same and stand in the same order, so the products that make the result are
formed in the same sequence, and what is refused is refused with an error of the same class. -/
theorem survival_perm {μ : Type} [Matcher μ ω] {m : Scale P} (ranks : m.Ranks) (o : ω)
    (s : Session μ) (distinct : (required.map Restriction.qualification).Nodup)
    (hr : required.Perm required') (ha : available.Perm available') :
    Alike (Query.run o (m.assess o required available) s).1
        (Query.run o (m.assess o required' available') s).1 ∧
      Alike (Query.run o (m.survival o required available) s).1
        (Query.run o (m.survival o required' available') s).1 := by
  have alike := assess_perm ranks o s distinct hr ha
  refine ⟨alike, ?_⟩
  rw [run_survival, run_survival]
  exact alike.map _

/-- Doubles are ranked by their positions in the total order. -/
theorem ranks_totalLE (base : Iri → Float) : (Scale.mk base Decimal.totalLE).Ranks where
  total := by
    intro p q
    simp only [Decimal.totalLE, decide_eq_true_eq]
    omega
  trans := by
    intro p q r
    simp only [Decimal.totalLE, decide_eq_true_eq]
    omega

/-- An arm and a part are asked for, each out of two, with the limit on arms given twice. -/
theorem survival_perm_parts :
    (({} : Defaults).scale parts).Ranks ∧
    ([atLeast arm 1, atLeast part 1].map Restriction.qualification).Nodup ∧
    [atLeast arm 1, atLeast part 1].Perm [atLeast part 1, atLeast arm 1] ∧
    [atMost arm 3, atMost part 2, atMost arm 2].Perm [atMost arm 2, atMost arm 3, atMost part 2] ∧
    Alike
      (Query.run parts ((({} : Defaults).scale parts).survival parts [atLeast arm 1, atLeast part 1]
        [atMost arm 3, atMost part 2, atMost arm 2]) matching).1
      (Query.run parts ((({} : Defaults).scale parts).survival parts [atLeast part 1, atLeast arm 1]
        [atMost arm 2, atMost arm 3, atMost part 2]) matching).1 := by
  have ranks : (({} : Defaults).scale parts).Ranks := ranks_totalLE _
  have distinct : ([atLeast arm 1, atLeast part 1].map Restriction.qualification).Nodup := by decide
  have required : [atLeast arm 1, atLeast part 1].Perm [atLeast part 1, atLeast arm 1] :=
    List.Perm.swap _ _ _
  have available : [atMost arm 3, atMost part 2, atMost arm 2].Perm
      [atMost arm 2, atMost arm 3, atMost part 2] := by decide
  exact ⟨ranks, distinct, required, available,
    (survival_perm ranks parts matching distinct required available).2⟩

end Redundancy

end RobotTeam
