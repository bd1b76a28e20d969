import RobotTeam.FactBase.Basic

/-! Declaring restrictions. It adds them to those of their class and leaves the other classes and the
hierarchy as they are. -/

namespace RobotTeam.FactBase

theorem isSubclass_refl (f : FactBase) (c : Iri) : Ontology.isSubclass f c c = true := by
  show (c == c || _) = true
  rw [beq_self_eq_true, Bool.true_or]

/-- With nothing above it a class is below itself only. -/
theorem isSubclass_of_above_nil {f : FactBase} {c : Iri} (top : f.above c = []) (d : Iri) :
    Ontology.isSubclass f c d = true ↔ c = d := by
  have ancestors : f.ancestors c = [] := by
    simp [FactBase.ancestors, climb, top]
  show (c == d || (f.ancestors c).contains d) = true ↔ _
  rw [ancestors]
  simp

theorem above_addClass (f : FactBase) (c d : Iri) : (f.addClass c).above d = f.above d := by
  unfold above addClass
  rw [Std.ExtTreeMap.getD_insertIfNew]
  split
  · next new => rw [Std.ExtTreeMap.getD_eq_fallback (Std.LawfulEqCmp.eq_of_compare new.1 ▸ new.2)]
  · rfl

theorem declared_addRestriction (f : FactBase) (c d : Iri) (r : Restriction) :
    (f.addRestriction c r).declared.getD d [] =
      f.declared.getD d [] ++ if c = d then [r] else [] := by
  unfold addRestriction addClass
  rw [Std.ExtTreeMap.getD_insert]
  by_cases h : c = d
  · subst h
    rw [if_pos Std.ReflCmp.compare_self, if_pos rfl]
  · rw [if_neg (mt Std.LawfulEqCmp.eq_of_compare h), if_neg h, List.append_nil]

def addRestrictions (f : FactBase) (c : Iri) (restrictions : List Restriction) : FactBase :=
  restrictions.foldl (fun f r => f.addRestriction c r) f

theorem above_addRestrictions (f : FactBase) (c d : Iri) (restrictions : List Restriction) :
    (f.addRestrictions c restrictions).above d = f.above d := by
  unfold addRestrictions
  induction restrictions generalizing f with
  | nil => rfl
  | cons r rest ih => exact (ih (f.addRestriction c r)).trans (above_addClass f c d)

theorem declared_addRestrictions (f : FactBase) (c d : Iri) (restrictions : List Restriction) :
    (f.addRestrictions c restrictions).declared.getD d [] =
      f.declared.getD d [] ++ if c = d then restrictions else [] := by
  unfold addRestrictions
  induction restrictions generalizing f with
  | nil => rw [ite_self, List.append_nil]; rfl
  | cons r rest ih =>
    rw [List.foldl_cons, ih, declared_addRestriction, List.append_assoc]
    by_cases h : c = d <;> simp [h]

theorem restrictions_of_declared {f : FactBase} {c property : Iri} {restrictions : List Restriction}
    (all : f.declared.getD c [] = restrictions) (along : ∀ r ∈ restrictions, r.property = property) :
    Ontology.restrictions f c property none = restrictions := by
  show List.filter _ (f.declared.getD c []) = restrictions
  rw [all]
  apply List.filter_eq_self.mpr
  intro r hr
  simp [along r hr]

/-- Without a hierarchy, where a service and a model declare restrictions. -/
def bare (service model : Iri) (wanted offered : List Restriction) : FactBase :=
  ((∅ : FactBase).addRestrictions service wanted).addRestrictions model offered

section Bare

variable {service model property : Iri} {wanted offered : List Restriction}

theorem isSubclass_bare (c d : Iri) :
    Ontology.isSubclass (bare service model wanted offered) c d = true ↔ c = d := by
  apply isSubclass_of_above_nil
  rw [bare, above_addRestrictions, above_addRestrictions]
  rfl

theorem restrictions_bare_service (different : service ≠ model)
    (along : ∀ r ∈ wanted, r.property = property) :
    Ontology.restrictions (bare service model wanted offered) service property none = wanted := by
  refine restrictions_of_declared ?_ along
  rw [bare, declared_addRestrictions, declared_addRestrictions, if_pos rfl, if_neg different.symm,
    List.append_nil]
  rfl

theorem restrictions_bare_model (different : service ≠ model)
    (along : ∀ r ∈ offered, r.property = property) :
    Ontology.restrictions (bare service model wanted offered) model property none = offered := by
  refine restrictions_of_declared ?_ along
  rw [bare, declared_addRestrictions, declared_addRestrictions, if_pos rfl, if_neg different,
    List.append_nil]
  rfl

end Bare

end RobotTeam.FactBase
