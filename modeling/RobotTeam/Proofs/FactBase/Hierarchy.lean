import RobotTeam.Proofs.FactBase.Declarations
import Mathlib.Data.List.Basic
import Mathlib.Logic.Relation
import Mathlib.Order.Defs.Unbundled

/-! The class hierarchy of a fact base, whatever it was declared from. The search for the classes above
a class meets each of them once, also where the hierarchy has cycles, so that subclass queries answer
what chains of declared superclasses say. -/

namespace RobotTeam.FactBase

section Search

variable (f : FactBase)

/-- A chain of superclasses leads from the first class to the second. -/
def Leads : Iri → Iri → Prop := Relation.ReflTransGen fun c super => super ∈ f.above c

def fresh (start c : Iri) (seen : List Iri) : List Iri :=
  (f.above c).filter fun s => s ≠ start && !seen.contains s

variable {f} {start c : Iri} {queue rest seen : List Iri}

theorem mem_fresh {s : Iri} : s ∈ f.fresh start c seen ↔ s ∈ f.above c ∧ s ≠ start ∧ s ∉ seen := by
  simp [fresh]

theorem nodup_above (f : FactBase) (c : Iri) : (f.above c).Nodup := by
  refine Std.ExtTreeSet.distinct_toList.imp ?_
  intro a b apart same
  exact apart (Std.LawfulEqCmp.compare_eq_iff_eq.mpr same)

variable (f) in
structure Climbed (start : Iri) (queue seen : List Iri) : Prop where
  queued : ∀ c ∈ queue, c = start ∨ c ∈ seen
  led : ∀ c ∈ seen, c ≠ start ∧ f.Leads start c
  looked : ∀ c, c = start ∨ c ∈ seen → c ∉ queue → ∀ s ∈ f.above c, s = start ∨ s ∈ seen
  once : seen.Nodup

theorem climbed_start (f : FactBase) (start : Iri) : f.Climbed start [start] [] where
  queued := by simp
  led := by simp
  looked := by simp
  once := List.nodup_nil

theorem Climbed.step (h : f.Climbed start (c :: rest) seen) :
    f.Climbed start (rest ++ f.fresh start c seen) (seen ++ f.fresh start c seen) where
  queued := by
    intro d hd
    rcases List.mem_append.mp hd with hd | hd
    · exact (h.queued d (List.mem_cons_of_mem c hd)).imp_right (List.mem_append_left _)
    · exact Or.inr (List.mem_append_right _ hd)
  led := by
    intro d hd
    rcases List.mem_append.mp hd with hd | hd
    · exact h.led d hd
    · obtain ⟨above, other, -⟩ := mem_fresh.mp hd
      refine ⟨other, ?_⟩
      rcases h.queued c List.mem_cons_self with rfl | met
      · exact .single above
      · exact (h.led c met).2.tail above
  looked := by
    intro d met waits s above
    rw [List.mem_append, not_or] at waits
    have known : d = start ∨ d ∈ seen :=
      met.imp_right fun hd => (List.mem_append.mp hd).resolve_right waits.2
    by_cases same : d = c
    · -- the class that is looked at: each of its superclasses is known by now
      subst same
      by_cases old : s = start ∨ s ∈ seen
      · exact old.imp_right (List.mem_append_left _)
      · rw [not_or] at old
        exact Or.inr (List.mem_append_right _ (mem_fresh.mpr ⟨above, old⟩))
    · have done : d ∉ c :: rest := by simp [same, waits.1]
      exact (h.looked d known done s above).imp_right (List.mem_append_left _)
  once := by
    refine List.nodup_append.mpr ⟨h.once, (nodup_above f c).filter _, ?_⟩
    rintro s hs t ht rfl
    exact (mem_fresh.mp ht).2.2 hs

theorem Climbed.climb (h : f.Climbed start queue seen) :
    f.Climbed start [] (f.climb start queue seen) := by
  induction queue, seen using FactBase.climb.induct f start with
  | case1 seen =>
    rw [FactBase.climb]
    exact h
  | case2 seen c rest fresh ih =>
    rw [FactBase.climb]
    exact ih h.step

theorem climbed_ancestors (f : FactBase) (c : Iri) : f.Climbed c [] (f.ancestors c) :=
  (climbed_start f c).climb

/-- The classes above a class are the others that a chain leads to. -/
theorem mem_ancestors {super : Iri} : super ∈ f.ancestors c ↔ super ≠ c ∧ f.Leads c super := by
  have all := climbed_ancestors f c
  have met : ∀ s, f.Leads c s → s = c ∨ s ∈ f.ancestors c := by
    intro s chain
    induction chain with
    | refl => exact Or.inl rfl
    | tail _ above ih => exact all.looked _ ih List.not_mem_nil _ above
  constructor
  · exact all.led super
  · rintro ⟨other, chain⟩
    exact (met super chain).resolve_left other

theorem isSubclass_iff_leads {super : Iri} :
    Ontology.isSubclass f c super = true ↔ f.Leads c super := by
  show (c == super || (f.ancestors c).contains super) = true ↔ _
  rw [Bool.or_eq_true, beq_iff_eq, List.contains_iff_mem, mem_ancestors]
  constructor
  · rintro (rfl | ⟨-, chain⟩)
    · exact .refl
    · exact chain
  · intro chain
    by_cases same : c = super
    · exact Or.inl same
    · exact Or.inr ⟨Ne.symm same, chain⟩

theorem isSubclass_of_above {super : Iri} (h : super ∈ f.above c) :
    Ontology.isSubclass f c super = true :=
  isSubclass_iff_leads.mpr (.single h)

theorem ordered_subclasses (f : FactBase) (c : Iri) (direct : Bool) :
    (Ontology.subclasses f c direct).Pairwise fun a b => compare a b = .lt :=
  Std.ExtTreeMap.ordered_keys.filter _

theorem mem_subclasses {below : Iri} : below ∈ Ontology.subclasses f c false ↔
    below ∈ f.classes ∧ below ≠ c ∧ Ontology.isSubclass f below c = true := by
  show below ∈ f.classes.filter _ ↔ _
  rw [List.mem_filter, Bool.and_eq_true, bne_iff_ne]
  rfl

end Search

/-- Whatever was declared, a class is below exactly those that chains of declared superclasses lead to.
This is a preorder, the search meets no class twice, and the classes found below a class are the known
ones among the others, in their order. -/
theorem subclass_queries_exact (declarations : List Declaration) :
    (∀ a b, Ontology.isSubclass (ofDeclarations declarations) a b = true ↔
      Relation.ReflTransGen (fun c super => .superclass c super ∈ declarations) a b) ∧
    IsPreorder Iri (fun a b => Ontology.isSubclass (ofDeclarations declarations) a b = true) ∧
    (∀ a, ((ofDeclarations declarations).ancestors a).Nodup) ∧
    ∀ b, (Ontology.subclasses (ofDeclarations declarations) b false).Pairwise
        (fun c d => compare c d = .lt) ∧
      ∀ c, c ∈ Ontology.subclasses (ofDeclarations declarations) b false ↔
        (∃ d ∈ declarations, c ∈ d.classes) ∧ c ≠ b ∧
          Relation.ReflTransGen (fun c super => .superclass c super ∈ declarations) c b := by
  have edges : (fun c super => super ∈ (ofDeclarations declarations).above c) =
      fun c super => Declaration.superclass c super ∈ declarations :=
    funext fun c => funext fun super => propext mem_above_ofDeclarations
  have chains : ∀ a b, Ontology.isSubclass (ofDeclarations declarations) a b = true ↔
      Relation.ReflTransGen (fun c super => .superclass c super ∈ declarations) a b := by
    intro a b
    rw [isSubclass_iff_leads, Leads, edges]
  refine ⟨chains, ?_, fun a => (climbed_ancestors _ a).once, ?_⟩
  · exact
      { refl := fun a => (chains a a).mpr .refl
        trans := fun a b c hab hbc =>
          (chains a c).mpr (((chains a b).mp hab).trans ((chains b c).mp hbc)) }
  · intro b
    refine ⟨ordered_subclasses _ b false, ?_⟩
    intro c
    rw [mem_subclasses, mem_classes_ofDeclarations, chains]

end RobotTeam.FactBase
