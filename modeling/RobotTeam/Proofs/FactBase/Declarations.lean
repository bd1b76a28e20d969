import RobotTeam.Proofs.FactBase.Declared
import Mathlib.Data.List.Basic

/-! Fact bases that are built from declarations of every sort. What such a fact base knows as a class, as
right above a class or as a restriction on it is what some declaration says. The restrictions of a class
stand in the order of their declarations. -/

namespace RobotTeam

inductive Declaration where
  | ofClass (c : Iri)
  | superclass (c super : Iri)
  | restriction (c : Iri) (r : Restriction)
  | value (c property : Iri) (value : Literal)

def Declaration.classes : Declaration → List Iri
  | ofClass c => [c]
  | superclass c super => [c, super]
  | restriction c _ => [c]
  | value c _ _ => [c]

def Declaration.restrictionsOn (c : Iri) : Declaration → List Restriction
  | restriction subject r => if subject = c then [r] else []
  | _ => []

namespace FactBase

def declare (f : FactBase) : Declaration → FactBase
  | .ofClass c => f.addClass c
  | .superclass c super => f.addSuperclass c super
  | .restriction c r => f.addRestriction c r
  | .value c property v => f.addValue c property v

def ofDeclarations (declarations : List Declaration) : FactBase := declarations.foldl declare ∅

section Declarations

variable {c super : Iri}

theorem mem_classes_addClass (f : FactBase) (d : Iri) :
    c ∈ (f.addClass d).classes ↔ c = d ∨ c ∈ f.classes := by
  unfold classes addClass
  rw [Std.ExtTreeMap.mem_keys, Std.ExtTreeMap.mem_insertIfNew, Std.ExtTreeMap.mem_keys,
    Std.LawfulEqCmp.compare_eq_iff_eq, eq_comm]

theorem mem_classes_addSuperclass (f : FactBase) (d above : Iri) :
    c ∈ (f.addSuperclass d above).classes ↔ c = d ∨ c = above ∨ c ∈ f.classes := by
  rw [← mem_classes_addClass f above]
  unfold classes addSuperclass
  rw [Std.ExtTreeMap.mem_keys, Std.ExtTreeMap.mem_insert, Std.ExtTreeMap.mem_keys,
    Std.LawfulEqCmp.compare_eq_iff_eq, eq_comm]

theorem mem_above_addSuperclass (f : FactBase) (d above : Iri) :
    super ∈ (f.addSuperclass d above).above c ↔ (c = d ∧ super = above) ∨ super ∈ f.above c := by
  rw [← above_addClass f above c]
  unfold FactBase.above addSuperclass
  rw [Std.ExtTreeMap.getD_insert]
  by_cases same : d = c
  · subst same
    rw [if_pos Std.ReflCmp.compare_self, Std.ExtTreeSet.mem_toList, Std.ExtTreeSet.mem_insert,
      Std.ExtTreeSet.mem_toList, Std.LawfulEqCmp.compare_eq_iff_eq]
    simp [eq_comm]
  · rw [if_neg (mt Std.LawfulEqCmp.eq_of_compare same)]
    simp [Ne.symm same]

theorem mem_classes_declare (f : FactBase) (d : Declaration) :
    c ∈ (f.declare d).classes ↔ c ∈ d.classes ∨ c ∈ f.classes := by
  cases d with
  | ofClass e => exact (mem_classes_addClass f e).trans (by simp [Declaration.classes])
  | superclass e above => exact (mem_classes_addSuperclass f e above).trans (by
      simp [Declaration.classes, or_assoc])
  | restriction e r => exact (mem_classes_addClass f e).trans (by simp [Declaration.classes])
  | value e property v => exact (mem_classes_addClass f e).trans (by simp [Declaration.classes])

theorem mem_above_declare (f : FactBase) (d : Declaration) :
    super ∈ (f.declare d).above c ↔ d = .superclass c super ∨ super ∈ f.above c := by
  cases d with
  | superclass e above =>
    refine (mem_above_addSuperclass f e above).trans (or_congr_left ?_)
    simp [eq_comm]
  | ofClass e => simp [declare, above_addClass]
  | restriction e r =>
    have same : (f.addRestriction e r).above c = f.above c := above_addClass f e c
    simp [declare, same]
  | value e property v =>
    have same : (f.addValue e property v).above c = f.above c := above_addClass f e c
    simp [declare, same]

theorem mem_classes_ofDeclarations {declarations : List Declaration} :
    c ∈ (ofDeclarations declarations).classes ↔ ∃ d ∈ declarations, c ∈ d.classes := by
  suffices ∀ f : FactBase, c ∈ (declarations.foldl declare f).classes ↔
      (∃ d ∈ declarations, c ∈ d.classes) ∨ c ∈ f.classes by
    have none : c ∉ (∅ : FactBase).classes := by
      show c ∉ (∅ : Std.ExtTreeMap Iri (Std.ExtTreeSet Iri)).keys
      simp
    rw [ofDeclarations, this]
    simp [none]
  induction declarations with
  | nil => simp
  | cons d rest ih =>
    intro f
    rw [List.foldl_cons, ih, mem_classes_declare, List.exists_mem_cons_iff, or_left_comm, or_assoc]

theorem mem_above_ofDeclarations {declarations : List Declaration} :
    super ∈ (ofDeclarations declarations).above c ↔ .superclass c super ∈ declarations := by
  suffices ∀ f : FactBase, super ∈ (declarations.foldl declare f).above c ↔
      .superclass c super ∈ declarations ∨ super ∈ f.above c by
    have none : (∅ : FactBase).above c = [] := by
      show ((∅ : Std.ExtTreeMap Iri (Std.ExtTreeSet Iri)).getD c ∅).toList = []
      simp
    rw [ofDeclarations, this, none]
    simp
  induction declarations with
  | nil => simp
  | cons d rest ih =>
    intro f
    rw [List.foldl_cons, ih, mem_above_declare, List.mem_cons, eq_comm, or_left_comm, or_assoc]

theorem declared_declare (f : FactBase) (d : Declaration) (c : Iri) :
    (f.declare d).declared.getD c [] = f.declared.getD c [] ++ d.restrictionsOn c := by
  cases d with
  | restriction e r => exact declared_addRestriction f e c r
  | ofClass e => exact (List.append_nil _).symm
  | superclass e above => exact (List.append_nil _).symm
  | value e property v => exact (List.append_nil _).symm

/-- The restrictions of a class stand in the order in which they are declared. -/
theorem declared_ofDeclarations (declarations : List Declaration) (c : Iri) :
    (ofDeclarations declarations).declared.getD c [] =
      declarations.flatMap fun d => d.restrictionsOn c := by
  suffices ∀ f : FactBase, (declarations.foldl declare f).declared.getD c [] =
      f.declared.getD c [] ++ declarations.flatMap fun d => d.restrictionsOn c by
    rw [ofDeclarations, this]
    exact congrArg (· ++ _) Std.ExtTreeMap.getD_empty
  induction declarations with
  | nil => exact fun f => (List.append_nil _).symm
  | cons d rest ih =>
    intro f
    rw [List.foldl_cons, ih, declared_declare, List.append_assoc, List.flatMap_cons]

theorem restrictions_perm {declarations permuted : List Declaration}
    (perm : declarations.Perm permuted) (c property : Iri) (qualification : Option Iri) :
    (Ontology.restrictions (ofDeclarations declarations) c property qualification).Perm
      (Ontology.restrictions (ofDeclarations permuted) c property qualification) := by
  apply List.Perm.filter
  rw [declared_ofDeclarations, declared_ofDeclarations]
  exact perm.flatMap_right _

end Declarations

end FactBase

end RobotTeam
