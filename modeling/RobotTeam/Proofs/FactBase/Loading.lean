import RobotTeam.FactBase.Description
import RobotTeam.Proofs.FactBase.Declarations
import RobotTeam.QueryError

/-! Loading described facts. A description that refers to described classes only and gives every
restriction a kind is loaded as its declarations, class by class in the order of the names. In any other
one the first fault in this order is reported. -/

namespace RobotTeam.Facts

def declarationsOf (facts : Facts) (name : String) (c : ClassFacts) : List Declaration :=
  .ofClass (facts.resolve name) ::
    (c.superclasses.map (fun super => .superclass (facts.resolve name) (facts.resolve super)) ++
    c.restrictions.map (fun r => .restriction (facts.resolve name) (facts.restriction r)) ++
    c.data.toList.map fun e => .value (facts.resolve name) (facts.resolve e.1) e.2)

def declarations (facts : Facts) : List Declaration :=
  facts.classes.toList.flatMap fun e => facts.declarationsOf e.1 e.2

def unknownFault? (facts : Facts) (referencedBy name : String) : Option FactError :=
  if facts.describes name then none else some (.unknownClass name referencedBy)

def restrictionFault? (facts : Facts) (name : String) (r : RestrictionFact) : Option FactError :=
  (facts.unknownFault? name r.qualification).or
    (if r.kind = .unknown then some (.malformedRestriction name r.qualification) else none)

def classFault? (facts : Facts) (name : String) (c : ClassFacts) : Option FactError :=
  (c.superclasses.findSome? (facts.unknownFault? name)).or
    (c.restrictions.findSome? (facts.restrictionFault? name))

section Load

variable {facts : Facts} (name : String) (base : FactBase)

theorem check_eq (super : String) : facts.check name super =
    (facts.unknownFault? name super).elim (.ok ()) .error := by
  unfold check unknownFault?
  split <;> rfl

theorem loadSuperclass_eq (super : String) : facts.loadSuperclass name base super =
    (facts.unknownFault? name super).elim
      (.ok (base.declare (.superclass (facts.resolve name) (facts.resolve super)))) .error := by
  rw [loadSuperclass, check_eq]
  cases facts.unknownFault? name super <;> rfl

theorem loadRestriction_eq (r : RestrictionFact) : facts.loadRestriction name base r =
    (facts.restrictionFault? name r).elim
      (.ok (base.declare (.restriction (facts.resolve name) (facts.restriction r)))) .error := by
  rw [loadRestriction, check_eq, restrictionFault?]
  cases facts.unknownFault? name r.qualification with
  | some error => rfl
  | none => by_cases unknown : r.kind = .unknown <;> simp [unknown] <;> rfl

theorem loadClass_eq (c : ClassFacts) : facts.loadClass base name c =
    (facts.classFault? name c).elim
      (.ok ((facts.declarationsOf name c).foldl FactBase.declare base)) .error := by
  rw [loadClass, foldlM_eq_elim_fault (loadSuperclass_eq name), classFault?]
  cases c.superclasses.findSome? (facts.unknownFault? name) with
  | some error => rfl
  | none =>
    rw [Option.none_or, declarationsOf, List.foldl_cons, List.foldl_append, List.foldl_append,
      List.foldl_map, List.foldl_map, List.foldl_map]
    show (c.restrictions.foldlM (facts.loadRestriction name) _ >>= _ : Except FactError FactBase) = _
    rw [foldlM_eq_elim_fault (loadRestriction_eq name)]
    cases c.restrictions.findSome? (facts.restrictionFault? name) <;> rfl

end Load

/-- A description is loaded as its declarations, unless there is a fault in it. -/
theorem load_eq (facts : Facts) : facts.load =
    (facts.classes.toList.findSome? fun e => facts.classFault? e.1 e.2).elim
      (.ok (FactBase.ofDeclarations facts.declarations)) .error := by
  rw [load, foldlM_eq_elim_fault fun base e => loadClass_eq e.1 base e.2, FactBase.ofDeclarations,
    declarations, List.foldl_flatMap]

variable {facts : Facts} {name : String} {c : ClassFacts}

structure Sound (facts : Facts) : Prop where
  superclasses : ∀ (name : String) (c : ClassFacts), facts.classes[name]? = some c →
    ∀ super ∈ c.superclasses, ∃ known ∈ facts.classes, facts.resolve known = facts.resolve super
  qualifications : ∀ (name : String) (c : ClassFacts), facts.classes[name]? = some c →
    ∀ r ∈ c.restrictions,
      ∃ known ∈ facts.classes, facts.resolve known = facts.resolve r.qualification
  kinds : ∀ (name : String) (c : ClassFacts), facts.classes[name]? = some c →
    ∀ r ∈ c.restrictions, r.kind ≠ .unknown

theorem describes_iff : facts.describes name = true ↔
    ∃ known ∈ facts.classes, facts.resolve known = facts.resolve name := by
  simp [describes, Std.ExtTreeMap.mem_keys]

theorem unknownFault?_eq_none_iff {super : String} : facts.unknownFault? name super = none ↔
    ∃ known ∈ facts.classes, facts.resolve known = facts.resolve super := by
  rw [← describes_iff, unknownFault?]
  split <;> simp [*]

theorem restrictionFault?_eq_none_iff {r : RestrictionFact} :
    facts.restrictionFault? name r = none ↔
      (∃ known ∈ facts.classes, facts.resolve known = facts.resolve r.qualification) ∧
        r.kind ≠ .unknown := by
  rw [restrictionFault?, Option.or_eq_none_iff, unknownFault?_eq_none_iff]
  simp

theorem sound_iff : facts.Sound ↔
    ∀ (name : String) (c : ClassFacts), facts.classes[name]? = some c →
      facts.classFault? name c = none := by
  simp only [classFault?, Option.or_eq_none_iff, List.findSome?_eq_none_iff,
    unknownFault?_eq_none_iff, restrictionFault?_eq_none_iff]
  constructor
  · intro h name c described
    exact ⟨h.superclasses name c described, fun r hr =>
      ⟨h.qualifications name c described r hr, h.kinds name c described r hr⟩⟩
  · intro h
    exact
      { superclasses := fun name c described => (h name c described).1
        qualifications := fun name c described r hr => ((h name c described).2 r hr).1
        kinds := fun name c described r hr => ((h name c described).2 r hr).2 }

theorem load_ok_iff {f : FactBase} :
    facts.load = .ok f ↔ facts.Sound ∧ FactBase.ofDeclarations facts.declarations = f := by
  have faultless : facts.Sound ↔
      (facts.classes.toList.findSome? fun e => facts.classFault? e.1 e.2) = none := by
    simp [sound_iff, List.findSome?_eq_none_iff, Std.ExtTreeMap.mem_toList_iff_getElem?_eq_some]
  rw [load_eq, faultless]
  cases facts.classes.toList.findSome? fun e => facts.classFault? e.1 e.2 <;> simp

theorem mem_declarations {d : Declaration} : d ∈ facts.declarations ↔
    ∃ (name : String) (c : ClassFacts), facts.classes[name]? = some c ∧ d ∈ facts.declarationsOf name c := by
  simp [declarations, Std.ExtTreeMap.mem_toList_iff_getElem?_eq_some]

theorem mem_declarationsOf {d : Declaration} : d ∈ facts.declarationsOf name c ↔
    d = .ofClass (facts.resolve name) ∨
    (∃ super ∈ c.superclasses, .superclass (facts.resolve name) (facts.resolve super) = d) ∨
    (∃ r ∈ c.restrictions, .restriction (facts.resolve name) (facts.restriction r) = d) ∨
    ∃ e ∈ c.data.toList, .value (facts.resolve name) (facts.resolve e.1) e.2 = d := by
  simp only [declarationsOf, List.mem_cons, List.mem_append, List.mem_map, or_assoc]

theorem superclass_mem_declarations {below super : Iri} :
    .superclass below super ∈ facts.declarations ↔
      ∃ (name : String) (c : ClassFacts), facts.classes[name]? = some c ∧
        facts.resolve name = below ∧ ∃ s ∈ c.superclasses, facts.resolve s = super := by
  rw [mem_declarations]
  constructor
  · rintro ⟨name, c, described, hd⟩
    rcases mem_declarationsOf.mp hd with hd | ⟨s, hs, hd⟩ | ⟨r, -, hd⟩ | ⟨e, -, hd⟩
    all_goals cases hd
    exact ⟨name, c, described, rfl, s, hs, rfl⟩
  · rintro ⟨name, c, described, rfl, s, hs, rfl⟩
    exact ⟨name, c, described, mem_declarationsOf.mpr (Or.inr (Or.inl ⟨s, hs, rfl⟩))⟩

/-- A sound description makes no other classes known than those that it describes. -/
theorem Sound.mem_classes (h : facts.Sound) {known : Iri} :
    (∃ d ∈ facts.declarations, known ∈ d.classes) ↔
      ∃ name ∈ facts.classes, facts.resolve name = known := by
  constructor
  · rintro ⟨d, hd, hk⟩
    obtain ⟨name, c, described, hd⟩ := mem_declarations.mp hd
    have here : ∃ other ∈ facts.classes, facts.resolve other = facts.resolve name :=
      ⟨name, Std.ExtTreeMap.mem_iff_isSome_getElem?.mpr (by simp [described]), rfl⟩
    rcases mem_declarationsOf.mp hd with rfl | ⟨super, hs, rfl⟩ | ⟨r, -, rfl⟩ | ⟨e, -, rfl⟩
    · rwa [List.mem_singleton.mp hk]
    · rcases List.mem_cons.mp hk with rfl | hk
      · exact here
      · rw [List.mem_singleton.mp hk]
        exact h.superclasses name c described super hs
    · rwa [List.mem_singleton.mp hk]
    · rwa [List.mem_singleton.mp hk]
  · rintro ⟨name, described, rfl⟩
    refine ⟨.ofClass (facts.resolve name), mem_declarations.mpr ?_, List.mem_cons_self⟩
    exact ⟨name, facts.classes[name], Std.ExtTreeMap.getElem?_eq_some_getElem described,
      mem_declarationsOf.mpr (Or.inl rfl)⟩

theorem restrictionsOn_declarationsOf (name : String) (d : ClassFacts) (c : Iri) :
    ((facts.declarationsOf name d).flatMap fun d => d.restrictionsOn c) =
      if facts.resolve name = c then d.restrictions.map facts.restriction else [] := by
  have superclasses : ∀ names : List String, (names.flatMap fun s =>
      (Declaration.superclass (facts.resolve name) (facts.resolve s)).restrictionsOn c) = [] :=
    fun names => List.flatMap_eq_nil_iff.mpr fun s _ => rfl
  have values : ∀ data : List (String × Literal), (data.flatMap fun e =>
      (Declaration.value (facts.resolve name) (facts.resolve e.1) e.2).restrictionsOn c) = [] :=
    fun data => List.flatMap_eq_nil_iff.mpr fun e _ => rfl
  rw [declarationsOf, List.flatMap_cons, List.flatMap_append, List.flatMap_append, List.flatMap_map,
    List.flatMap_map, List.flatMap_map, superclasses, values]
  by_cases same : facts.resolve name = c
  · simp [Declaration.restrictionsOn, same, List.map_eq_flatMap]
  · simp [Declaration.restrictionsOn, same]

theorem restrictionsOn_declarations (c : Iri) :
    facts.declarations.flatMap (fun d => d.restrictionsOn c) =
      (facts.classes.toList.filter fun e => facts.resolve e.1 = c).flatMap fun e =>
        e.2.restrictions.map facts.restriction := by
  rw [declarations, List.flatMap_assoc]
  induction facts.classes.toList with
  | nil => rfl
  | cons e rest ih =>
    rw [List.flatMap_cons, ih, restrictionsOn_declarationsOf, List.filter_cons]
    by_cases same : facts.resolve e.1 = c <;> simp [same]

/-- A description is loaded exactly when it is sound. The classes are then the ones that are described,
the classes right above a class those that are named as such, and its restrictions those of all
descriptions of the class, in the order of their names. -/
theorem load_exact (facts : Facts) :
    ((∃ f, facts.load = .ok f) ↔ facts.Sound) ∧
    ∀ f, facts.load = .ok f →
      (∀ c, c ∈ f.classes ↔ ∃ name ∈ facts.classes, facts.resolve name = c) ∧
      (∀ c super, super ∈ f.above c ↔
        ∃ (name : String) (d : ClassFacts), facts.classes[name]? = some d ∧
          facts.resolve name = c ∧ ∃ s ∈ d.superclasses, facts.resolve s = super) ∧
      ∀ c, f.declared.getD c [] =
        (facts.classes.toList.filter fun e => facts.resolve e.1 = c).flatMap fun e =>
          e.2.restrictions.map facts.restriction := by
  constructor
  · simp [load_ok_iff]
  · intro f loaded
    obtain ⟨sound, rfl⟩ := load_ok_iff.mp loaded
    refine ⟨fun c => ?_, fun c super => ?_, fun c => ?_⟩
    · rw [FactBase.mem_classes_ofDeclarations, sound.mem_classes]
    · rw [FactBase.mem_above_ofDeclarations, superclass_mem_declarations]
    · rw [FactBase.declared_ofDeclarations, restrictionsOn_declarations]

end RobotTeam.Facts
