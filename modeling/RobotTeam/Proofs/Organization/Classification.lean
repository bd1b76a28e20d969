import RobotTeam.Proofs.FactBase.Declared
import RobotTeam.Proofs.Organization.Supply
import RobotTeam.Proofs.Query.Interleaving

/-! The support that instances of a model give to a service, against what the matcher says of them. The
one asks for the sum of the minimums on each class, and judges each class on its own. The other asks for
the largest minimum on each class, but no instance may serve two classes. -/

namespace RobotTeam

theorem Support.classify_eq_full_iff {met total : ℕ} : classify met total = .full ↔ met = total := by
  unfold classify
  split
  · next all => exact iff_of_true rfl all
  · next fewer => split <;> simp [fewer]

namespace Organization

open Redundancy

variable {ω : Type} [Ontology ω]

theorem judge_eq_full_iff (o : ω) (required available : List Restriction) :
    judge o required available = .full ↔
      ∀ r ∈ required, r.cardinality ≤ supplied o r.qualification available := by
  rw [judge, Support.classify_eq_full_iff, met, List.length_filter_eq_length_iff]
  simp

section Session

variable {a : Organization ω} {μ : Type} [Matcher μ ω] {s : Session μ} {service model : Iri} {n : ℕ}

/-- Support is full if what is declared as a minimum on any class, all of it added up, is on hand at or
below the class. -/
theorem support_eq_full_iff (sound : s.cache.Sound a.ontology) :
    (Query.run a.ontology (a.support service model n) s).1 = .full ↔
      ∀ q, Count.capped (Restriction.declared .min (a.declaredBy service) q) ≤
        picked (serves a.ontology · q) ((Allocation.mk a.settings.property).capabilities a.ontology
          (Combination.copies n model)) := by
  rw [run_support sound, judge_eq_full_iff]
  change (∀ r ∈ (a.requiredKey service).total a.ontology,
    r.cardinality ≤ a.supply model n r.qualification) ↔ _
  simp only [supply_eq_picked]
  generalize (Allocation.mk a.settings.property).capabilities a.ontology (Combination.copies n model)
    = onHand
  refine (forall_required_iff (P := fun q least => least ≤ Count.capped (picked
    (serves a.ontology · q) onHand)) fun _ => Nat.zero_le _).trans (forall_congr' fun q => ?_)
  exact Count.le_capped_iff.trans (and_iff_left (Count.capped_le _))

/-- What is set on any class as a minimum adds up to no more than the largest of it. -/
def Settled (restrictions : List Restriction) : Prop :=
  ∀ q, Count.capped (Restriction.declared .min restrictions q) ≤ Bound.lowest restrictions q

theorem full_of_supported (sound : s.cache.Sound a.ontology) (settled : Settled (a.declaredBy service))
    {services : List Iri} (h : service ∈ Matcher.supported (Allocation.mk a.settings.property)
      a.ontology (Combination.copies n model) services) :
    (Query.run a.ontology (a.support service model n) s).1 = .full := by
  obtain ⟨-, -, -, served⟩ := (Allocation.mem_supported_iff _ _).mp h
  rw [support_eq_full_iff sound]
  intro q
  refine (settled q).trans ((served.single q).trans (picked_le ?_ _))
  intro c fit
  rw [serves]
  exact Bool.or_eq_true_iff.mpr (Or.inr fit)

theorem settled_of_distinct {restrictions : List Restriction} (counts : ∀ r ∈ restrictions, r.Counts)
    (distinct : ((restrictions.filter fun r => r.Sets .min).map Restriction.qualification).Nodup) :
    Settled restrictions := by
  intro q
  rw [Restriction.declared_eq_lowest counts distinct]
  exact Count.capped_le_self _

end Session

section Overclaims

variable {property service model : Iri} {restrictions : List Restriction}

/-- Whatever else is known and whatever model is tried, a service with these restrictions is supported
only where its support is full. -/
def NeverOverclaims (property : Iri) (restrictions : List Restriction) : Prop :=
  ∀ (a : Organization FactBase) (service model : Iri) (n : ℕ) (services : List Iri)
    (s : Session Allocation), a.settings.property = property → a.declaredBy service = restrictions →
    s.cache.Sound a.ontology →
    service ∈ Matcher.supported (Allocation.mk property) a.ontology (Combination.copies n model)
      services →
    (Query.run a.ontology (a.support service model n) s).1 = .full

def barely (property : Iri) (restrictions : List Restriction) : List Restriction :=
  (restrictions.map Restriction.qualification).dedup.map fun q =>
    .object property q (Bound.lowest restrictions q) .max

theorem declared_barely (q : Iri) :
    Restriction.declared .max (barely property restrictions) q = Bound.lowest restrictions q := by
  have amounts : ∀ classes : List Iri, Restriction.declared .max (classes.map fun c =>
      .object property c (Bound.lowest restrictions c) .max) q =
      Pool.amount (classes.map fun c => (c, Bound.lowest restrictions c)) q := by
    intro classes
    induction classes with
    | nil => rfl
    | cons c rest ih =>
      rw [List.map_cons, List.map_cons, Restriction.declared_cons, Pool.amount_cons, ih]
      exact congrArg (· + _) (if_congr (and_iff_right rfl) rfl rfl)
  rw [barely, amounts, Pool.amount_map (List.nodup_dedup _)]
  split
  · rfl
  · next unnamed => exact (Bound.lowest_of_not_mem (mt List.mem_dedup.mpr unnamed)).symm

def needy (property service model : Iri) (restrictions : List Restriction) : Organization FactBase :=
  ⟨.bare service model restrictions (barely property restrictions), { property := property },
    .empty ∅⟩

section Needy

variable (different : service ≠ model)

include different

theorem declaredBy_needy (along : ∀ r ∈ restrictions, r.property = property) :
    (needy property service model restrictions).declaredBy service = restrictions :=
  FactBase.restrictions_bare_service different along

theorem holds_needy (inRange : ∀ r ∈ restrictions, r.InRange) (q : Iri) :
    Bound.holds ((Allocation.mk property).capabilities
      (needy property service model restrictions).ontology (Combination.copies 1 model)) q =
      Bound.lowest restrictions q := by
  have offered : (needy property service model restrictions).declaredBy model =
      barely property restrictions := by
    refine FactBase.restrictions_bare_model different ?_
    intro r hr
    obtain ⟨c, -, rfl⟩ := List.mem_map.mp hr
    rfl
  refine (holds_copies (a := needy property service model restrictions) model 1 q).trans ?_
  rw [Nat.mul_one, offered, declared_barely, Count.capped_eq (Restriction.lowest_le_limit inRange q)]

theorem supported_needy (along : ∀ r ∈ restrictions, r.property = property)
    (asks : restrictions ≠ []) (counts : ∀ r ∈ restrictions, r.Counts)
    (inRange : ∀ r ∈ restrictions, r.InRange) :
    service ∈ Matcher.supported (Allocation.mk property)
      (needy property service model restrictions).ontology (Combination.copies 1 model) [service] := by
  have wanted : Ontology.restrictions (needy property service model restrictions).ontology service
      property none = restrictions := declaredBy_needy different along
  rw [Allocation.mem_supported_iff]
  simp only [wanted]
  refine ⟨List.mem_singleton_self service, asks, counts, Served.of_holds ?_ ?_⟩
  · exact FactBase.isSubclass_refl _
  · intro q
    exact (holds_needy different inRange q).ge

theorem supplied_needy (inRange : ∀ r ∈ restrictions, r.InRange) (q : Iri) :
    picked (serves (needy property service model restrictions).ontology · q)
      ((Allocation.mk property).capabilities (needy property service model restrictions).ontology
        (Combination.copies 1 model)) = Bound.lowest restrictions q := by
  rw [← holds_needy different inRange q, ← picked_eq_holds]
  refine congrArg (picked · _) (funext fun c => ?_)
  rw [Bool.eq_iff_iff, decide_eq_true_iff, serves, Bool.or_eq_true, beq_iff_eq]
  constructor
  · rintro (same | below)
    · exact same.symm
    · exact (FactBase.isSubclass_bare c q).mp below
  · exact fun same => Or.inl same.symm

end Needy

/-- The support is at least what the matcher claims exactly if no class has minimums that add up to
more than the largest of them. -/
theorem neverOverclaims_iff (along : ∀ r ∈ restrictions, r.property = property)
    (inRange : ∀ r ∈ restrictions, r.InRange) : NeverOverclaims property restrictions ↔
      ((∀ r ∈ restrictions, r.Counts) → Settled restrictions) := by
  constructor
  · intro never counts q
    by_cases asks : restrictions = []
    · subst asks
      exact Nat.le_refl 0
    · -- a model with the largest minimum of each class satisfies the matcher and has nothing beyond it
      have different : lifting ≠ hoist := by decide
      have declared := declaredBy_needy different along
      have sound : (Session.fresh (Allocation.mk property)).cache.Sound
          (needy property lifting hoist restrictions).ontology := Cache.sound_empty _
      have full := never (needy property lifting hoist restrictions) lifting hoist 1 [lifting] _ rfl
        declared sound (supported_needy different along asks counts inRange)
      have enough := (support_eq_full_iff sound).mp full q
      rw [declared] at enough
      exact enough.trans (supplied_needy different inRange q).le
  · rintro settled a service model n services s rfl rfl sound h
    obtain ⟨-, -, counts, -⟩ := (Allocation.mem_supported_iff _ _).mp h
    exact full_of_supported sound (settled counts) h

section Cameras

def watching : Iri := ⟨"http://team#Watching"⟩

def scout : Iri := ⟨"http://team#Scout"⟩

def camera : Iri := ⟨"http://team#Camera"⟩

def cameras : List Restriction := [.object carries camera 1 .min, .object carries camera 2 .min]

/-- Two minimums on one class overclaim, a minimum and a maximum do not. -/
theorem neverOverclaims_cameras : ¬NeverOverclaims carries cameras ∧
    NeverOverclaims carries [.object carries camera 2 .min, .object carries camera 5 .max] := by
  constructor
  · rw [neverOverclaims_iff (by decide) (by decide)]
    intro settled
    exact absurd (settled (by decide) camera) (by decide)
  · rw [neverOverclaims_iff (by decide) (by decide)]
    exact fun counts => settled_of_distinct counts (by decide)

def watch : Organization FactBase :=
  ⟨FactBase.bare watching scout cameras [.object carries camera 2 .max], { property := carries },
    .empty ∅⟩

/-- A scout with two cameras is enough for the matcher, and no support at all when judged. -/
theorem unsupported_watch :
    watching ∈ Matcher.supported (Allocation.mk carries) watch.ontology (Combination.copies 1 scout)
      [watching] ∧
    (Query.run watch.ontology (watch.support watching scout 1) (.fresh (Allocation.mk carries))).1 =
      .none := by
  constructor
  · simp only [Matcher.supported, Allocation.capabilities, Combination.toPool_copies]
    decide +kernel
  · decide +kernel

end Cameras

end Overclaims

section InMemory

variable {a : Organization FactBase} {s : Session Allocation} {service model : Iri} {n : ℕ}

/-- No two requirements have a claim to the same resources of the model. -/
def Apart (a : Organization FactBase) (service model : Iri) : Prop :=
  ∀ r ∈ a.declaredBy model, r.Sets .max → ∀ p ∈ a.declaredBy service, p.Sets .min →
    ∀ q ∈ a.declaredBy service, q.Sets .min →
    Ontology.isSubclass a.ontology r.qualification p.qualification = true →
    Ontology.isSubclass a.ontology r.qualification q.qualification = true →
    p.qualification = q.qualification

/-- Where requirements do not compete, judging each on its own is right. -/
theorem full_iff_supported (sound : s.cache.Sound a.ontology) (declares : a.declaredBy service ≠ [])
    (counts : ∀ r ∈ a.declaredBy service, r.Counts)
    (inRange : ∀ r ∈ a.declaredBy service, r.InRange)
    (distinct : ((a.declaredBy service).map Restriction.qualification).Nodup)
    (apart : Apart a service model) {services : List Iri} (known : service ∈ services) :
    (Query.run a.ontology (a.support service model n) s).1 = .full ↔
      service ∈ Matcher.supported (Allocation.mk a.settings.property) a.ontology
        (Combination.copies n model) services := by
  have least : ((a.declaredBy service).filter fun r => r.Sets .min).map Restriction.qualification
      |>.Nodup := distinct.sublist (List.filter_sublist.map _)
  constructor
  · intro full
    rw [support_eq_full_iff sound] at full
    refine (Allocation.mem_supported_iff _ _).mpr ⟨known, declares, counts, Served.of_single ?_ ?_⟩
    · -- what serves two requirements comes from one offer, which keeps them apart
      intro b hb p q asked asked' fit fit'
      obtain ⟨r, hr, offers, named⟩ := exists_offer hb
      obtain ⟨t, ht, asks, rfl⟩ := Restriction.exists_of_lowest_pos counts asked
      obtain ⟨t', ht', asks', rfl⟩ := Restriction.exists_of_lowest_pos counts asked'
      rw [← named] at fit fit'
      exact apart r hr offers t ht asks t' ht' asks' fit fit'
    · intro q
      have enough := full q
      rw [Restriction.declared_eq_lowest counts least,
        Count.capped_eq (Restriction.lowest_le_limit inRange q)] at enough
      refine enough.trans (picked_le ?_ _)
      intro c serve
      rcases Bool.or_eq_true_iff.mp serve with same | below
      · exact eq_of_beq same ▸ a.ontology.isSubclass_refl q
      · exact below
  · exact full_of_supported sound (settled_of_distinct counts least)

def tools : List Restriction := [.object carries camera 1 .min, .object carries hook 2 .exact]

/-- A camera and two hooks do not compete, so a scout that has just these gives full support. -/
theorem full_tools :
    (Query.run (needy carries watching scout tools).ontology
      ((needy carries watching scout tools).support watching scout 1)
      (.fresh (Allocation.mk carries))).1 = .full := by
  have different : watching ≠ scout := by decide
  have along : ∀ r ∈ tools, r.property = carries := by decide
  have declared := declaredBy_needy different along
  have sound : (Session.fresh (Allocation.mk carries)).cache.Sound
      (needy carries watching scout tools).ontology := Cache.sound_empty _
  have apart : Apart (needy carries watching scout tools) watching scout := by
    intro r hr _ p hp _ q hq _ below below'
    exact ((FactBase.isSubclass_bare _ _).mp below).symm.trans
      ((FactBase.isSubclass_bare _ _).mp below')
  have supported := supported_needy different along (by decide) (by decide) (by decide)
  refine (full_iff_supported sound ?_ ?_ ?_ ?_ apart (List.mem_singleton_self watching)).mpr supported
  all_goals
    rw [declared]
    decide

end InMemory

end Organization

end RobotTeam
