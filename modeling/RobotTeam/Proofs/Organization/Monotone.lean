import RobotTeam.Proofs.FactBase.Declared
import RobotTeam.Proofs.Organization.Supply
import RobotTeam.Proofs.Query.Interleaving

/-! Support grows with the number of instances. More instances supply no less of any class, so that every
requirement that is met stays met, and the judgement only counts how many there are. -/

namespace RobotTeam

namespace Support

theorem none_le (s : Support) : Support.none ≤ s := Nat.zero_le s.rank

theorem le_full (s : Support) : s ≤ .full := by
  cases s <;> decide

/-- With the same requirements, more of them met is better support. -/
theorem classify_mono {met more total : ℕ} (grown : met ≤ more) (bounded : more ≤ total) :
    classify met total ≤ classify more total := by
  by_cases all : more = total
  · have full : classify more total = .full := if_pos all
    rw [full]
    apply le_full
  · have fewer : met ≠ total := by omega
    unfold classify
    rw [if_neg all, if_neg fewer]
    by_cases nothing : met = 0
    · rw [if_pos nothing]
      apply none_le
    · have something : more ≠ 0 := by omega
      rw [if_neg nothing, if_neg something]
      exact Nat.le_refl _

end Support

namespace Organization

variable {ω : Type} [Ontology ω]

section Judgement

variable {o : ω} {available more : List Restriction}

theorem met_sublist (grown : ∀ q, supplied o q available ≤ supplied o q more)
    (required : List Restriction) : (met o required available).Sublist (met o required more) := by
  apply List.monotone_filter_right
  intro r enough
  rw [decide_eq_true_eq] at enough ⊢
  exact enough.trans (grown r.qualification)

theorem judge_mono (grown : ∀ q, supplied o q available ≤ supplied o q more)
    (required : List Restriction) : judge o required available ≤ judge o required more := by
  apply Support.classify_mono
  · exact (met_sublist grown required).length_le
  · exact List.length_filter_le _ required

end Judgement

variable {a : Organization ω} {n k : ℕ}

theorem supply_mono (more : n ≤ k) (model q : Iri) : a.supply model n q ≤ a.supply model k q := by
  rw [supply_eq, supply_eq]
  apply Count.capped_mono
  exact Nat.mul_le_mul_right _ more

variable {μ : Type} [Matcher μ ω] {s t : Session μ}

/-- Whatever was asked before, more instances of a model meet every requirement that fewer of them meet,
and they support the service no worse. -/
theorem support_mono (soundS : s.cache.Sound a.ontology) (soundT : t.cache.Sound a.ontology)
    (service model : Iri) (more : n ≤ k) :
    (met a.ontology ((a.requiredKey service).total a.ontology)
        ((a.availableKey (Pool.single model n)).total a.ontology)).Sublist
      (met a.ontology ((a.requiredKey service).total a.ontology)
        ((a.availableKey (Pool.single model k)).total a.ontology)) ∧
    (Query.run a.ontology (a.support service model n) s).1 ≤
      (Query.run a.ontology (a.support service model k) t).1 := by
  have grown : ∀ q, a.supply model n q ≤ a.supply model k q := supply_mono more model
  constructor
  · exact met_sublist grown _
  · rw [run_support soundS, run_support soundT]
    exact judge_mono grown _

section Hoists

def winch : Iri := ⟨"http://team#Winch"⟩

def derrick : Organization FactBase :=
  ⟨.bare lifting hoist [.object carries hook 4 .min, .object carries winch 1 .exact]
    [.object carries hook 2 .max, .object carries winch 1 .max], { property := carries }, .empty ∅⟩

/-- Without a hierarchy only what is named for a class is supplied of it. -/
theorem supplied_derrick (q : Iri) (available : List Restriction) :
    supplied derrick.ontology q available =
      (available.filter (·.qualification == q)).foldl
        (fun sum r => Count.addCapped sum r.cardinality) 0 := by
  have named : ∀ c, (c == q || Ontology.isSubclass derrick.ontology c q) = (c == q) := by
    intro c
    rw [Bool.or_eq_left_iff_imp]
    intro below
    exact beq_iff_eq.mpr ((FactBase.isSubclass_bare c q).mp below)
  simp only [supplied, named]

/-- The first hoist brings the winch and the second one the missing hooks. From there on support is
full. -/
theorem support_mono_derrick : (Session.fresh (Allocation.mk carries)).cache.Sound derrick.ontology ∧
    (Query.run derrick.ontology (derrick.support lifting hoist 0)
      (.fresh (Allocation.mk carries))).1 = .none ∧
    (Query.run derrick.ontology (derrick.support lifting hoist 1)
      (.fresh (Allocation.mk carries))).1 = .part ∧
    ∀ k, 2 ≤ k → .full ≤ (Query.run derrick.ontology (derrick.support lifting hoist k)
      (.fresh (Allocation.mk carries))).1 := by
  have sound : (Session.fresh (Allocation.mk carries)).cache.Sound derrick.ontology :=
    Cache.sound_empty derrick.ontology
  have two : (Query.run derrick.ontology (derrick.support lifting hoist 2)
      (.fresh (Allocation.mk carries))).1 = .full := by
    simp only [run_support sound, judge, met, supplied_derrick]
    decide +kernel
  refine ⟨sound, ?_, ?_, fun k more => ?_⟩
  · simp only [run_support sound, judge, met, supplied_derrick]
    decide +kernel
  · simp only [run_support sound, judge, met, supplied_derrick]
    decide +kernel
  · have least := (support_mono sound sound lifting hoist more).2
    rwa [two] at least

end Hoists

end Organization

end RobotTeam
