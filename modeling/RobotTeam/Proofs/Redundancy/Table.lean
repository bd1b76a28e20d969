import RobotTeam.Proofs.FactBase.Hierarchy
import RobotTeam.Proofs.Matching.Shares
import RobotTeam.Proofs.Redundancy.SharedUse
import RobotTeam.Redundancy.Table

/-! The table of single models never fails. It has an entry exactly for the pairs of a service and a
model of which one instance can be shared out to what the service requires, as long as a counter can
show how often, and every refusal that it passes over is one for want of requirements, of limits or of
resources. -/

namespace RobotTeam

namespace Organization

variable {ω : Type} [Ontology ω] (a : Organization ω) {kind : Kind} {subject q : Iri}

/-- What the restrictions that a subject declares on a class add up to, at most the largest count. -/
def sum (kind : Kind) (subject q : Iri) : ℕ :=
  Count.capped (Restriction.declared kind (a.declaredBy subject) q)

def counted (kind : Kind) (subject : Iri) : Finset Iri :=
  Restriction.classes ((a.declaredBy subject).filter fun r => r.Sets kind)

/-- The service has requirements, all of them for some instances, and what one instance of the model
provides is limited and can be shared out to them. -/
structure Suffices (service model : Iri) : Prop where
  asks : (a.counted .min service).Nonempty
  positive : ∀ q ∈ a.counted .min service, 0 < a.sum .min service q
  limited : ∀ c ∈ a.counted .max model, a.sum .max model c < Bound.unbounded
  served : ∃ x,
    Shares a.ontology (a.counted .min service) (a.counted .max model) (a.sum .max model) x ∧
    ∀ q ∈ a.counted .min service, received (a.counted .max model) x q = a.sum .min service q

variable {a}

theorem mem_counted : q ∈ a.counted kind subject ↔
    ∃ r ∈ a.declaredBy subject, r.Sets kind ∧ r.qualification = q := by
  rw [counted, Restriction.mem_classes]
  simp [and_assoc]

theorem mem_counted_iff_sums : q ∈ a.counted kind subject ↔
    q ∈ TotalKey.sums a.ontology ⟨Pool.single subject 1, a.settings.property, kind, false⟩ :=
  mem_counted.trans (mem_sums_single false q).symm

theorem counted_nonempty_iff : (a.counted kind subject).Nonempty ↔
    TotalKey.total a.ontology ⟨Pool.single subject 1, a.settings.property, kind, false⟩ ≠ [] := by
  rw [ne_eq, ← List.map_eq_nil_iff (f := Restriction.qualification),
    TotalKey.map_qualification_total]
  constructor
  · rintro ⟨q, hq⟩
    exact List.ne_nil_of_mem (Std.ExtTreeMap.mem_keys.mpr (mem_counted_iff_sums.mp hq))
  · intro some
    obtain ⟨q, hq⟩ := List.exists_mem_of_ne_nil _ some
    exact ⟨q, mem_counted_iff_sums.mpr (Std.ExtTreeMap.mem_keys.mp hq)⟩

theorem capped_amount_single (maxToMin : Bool) : Count.capped (TotalKey.amount a.ontology
    ⟨Pool.single subject 1, a.settings.property, kind, maxToMin⟩ q) = a.sum kind subject q := by
  rw [TotalKey.amount_single, Nat.mul_one]
  rfl

section Bounds

variable {bounds : List Bound}

theorem models_counted (merged : Bound.Merged
    (TotalKey.total a.ontology ⟨Pool.single subject 1, a.settings.property, kind, false⟩) bounds) :
    Bound.models bounds = a.counted kind subject := by
  ext q
  rw [merged.models_eq, Restriction.mem_classes, TotalKey.map_qualification_total,
    Std.ExtTreeMap.mem_keys, mem_counted_iff_sums]

theorem forall_models_iff {P : Iri → Prop} :
    (∀ q ∈ Bound.models bounds, P q) ↔ ∀ b ∈ bounds, P b.model := by
  simp [Bound.models]

variable {service model : Iri}

theorem needs_required (merged : Bound.Merged ((a.requiredKey service).total a.ontology) bounds) :
    Bound.needs bounds = a.sum .min service := by
  funext q
  rw [merged.needs_eq, TotalKey.lowest_total a.ontology rfl]
  exact capped_amount_single false

theorem holds_single
    (merged : Bound.Merged ((a.offeredKey (Pool.single model 1)).total a.ontology) bounds) :
    Bound.holds bounds = a.sum .max model := by
  funext c
  rw [TotalKey.holds_total a.ontology rfl merged]
  exact capped_amount_single false

end Bounds

end Organization

namespace Redundancy

open Organization

section Single

variable {ω : Type} [Ontology ω] {a : Organization ω} {service model : Iri} {wanted onHand : List Bound}
  (posed : Posed ((a.requiredKey service).total a.ontology)
    ((a.offeredKey (Pool.single model 1)).total a.ontology) wanted onHand)

include posed

theorem Posed.positive_iff : (∀ b ∈ wanted, 0 < b.min) ↔
    ∀ q ∈ a.counted .min service, 0 < a.sum .min service q := by
  have merged := Bound.merged_of_merge posed.wanted_eq
  rw [← models_counted merged, forall_models_iff, ← needs_required merged]
  refine forall₂_congr fun b hb => ?_
  rw [merged.needs_eq, merged.min_eq b hb]

theorem Posed.limited_iff : (∀ b ∈ onHand, b.max ≠ Bound.unbounded) ↔
    ∀ c ∈ a.counted .max model, a.sum .max model c < Bound.unbounded := by
  have merged := Bound.merged_of_merge posed.onHand_eq
  rw [← models_counted merged, forall_models_iff, ← holds_single merged]
  refine forall₂_congr fun b hb => ?_
  rw [merged.holds_eq ((merged.models _).mp (List.mem_map_of_mem hb)), merged.max_eq b hb]
  exact (Bound.highest_le _ _).lt_iff_ne.symm

theorem Posed.solvable_iff_shares : (Problem.ofBounds a.ontology wanted.get onHand.get).Solvable ↔
    ∃ x, Shares a.ontology (a.counted .min service) (a.counted .max model) (a.sum .max model) x ∧
      ∀ q ∈ a.counted .min service, received (a.counted .max model) x q = a.sum .min service q := by
  have required := Bound.merged_of_merge posed.wanted_eq
  have offered := Bound.merged_of_merge posed.onHand_eq
  rw [solvable_iff_groups, ← exists_shares_iff, models_counted required, models_counted offered,
    needs_required required, holds_single offered]

omit posed in
theorem Assessable.suffices (ready : Assessable ((a.requiredKey service).total a.ontology)
      ((a.offeredKey (Pool.single model 1)).total a.ontology) wanted onHand)
    (served : (Problem.ofBounds a.ontology wanted.get onHand.get).Solvable) :
    a.Suffices service model where
  asks := counted_nonempty_iff.mpr ready.asked
  positive := ready.toPosed.positive_iff.mp ready.positive
  limited := ready.toPosed.limited_iff.mp ready.limited
  served := ready.toPosed.solvable_iff_shares.mp served

end Single

section Order

variable {P : Type}

def Entry.order : Entry P → Entry P → Ordering :=
  compareLex (compareOn Entry.service) (compareOn Entry.model)

theorem order_lt_iff {d e : Entry P} : Entry.order d e = .lt ↔
    compare d.service e.service = .lt ∨ d.service = e.service ∧ compare d.model e.model = .lt := by
  have same : d.service = e.service ↔ compare d.service e.service = .eq :=
    Std.LawfulEqCmp.compare_eq_iff_eq.symm
  rw [same]
  exact Ordering.then_eq_lt

end Order

variable {P : Type} [Mul P] [Div P] [Sub P] [LT P] [DecidableLT P] [OfNat P 0] [OfNat P 1]

section Metric

variable {ω : Type} [Ontology ω] (m : Scale P) {a : Organization ω} {service model : Iri}
  {s : Session Allocation}

theorem Outcome.isLeftOut {α : Type} {o : ω} {required available : List Restriction} {e : QueryError}
    (h : Outcome o required available (.error e : Except QueryError α))
    (counts : ∀ r ∈ required ++ available, r.Counts) : isLeftOut e = true := by
  cases h with
  | unasked h => rfl
  | mismatch asked bad reason =>
    obtain ⟨r, hr, bad⟩ := bad
    exact absurd (counts r hr) bad
  | noMinimum posed zero => rfl
  | unlimited posed positive hb free => rfl
  | unmet ready stuck => rfl
  | overrun ready more => rfl

end Metric

section Entries

variable {ω : Type} [Ontology ω] (m : Scale P) (a : Organization ω) (x : Allocation)

def metric (service model : Iri) : Except QueryError P :=
  (Query.run a.ontology (ofModel m a service model) (.fresh x)).1

def entryOf (service model : Iri) : Option (Entry P) :=
  (metric m a x service model).toOption.map fun p => ⟨service, model, p⟩

def entries : List (Entry P) :=
  a.services.flatMap fun service => a.pool.models.filterMap (entryOf m a x service)

variable {m a x}

theorem entryOf_eq_some {service model : Iri} {e : Entry P} : entryOf m a x service model = some e ↔
    e.service = service ∧ e.model = model ∧ metric m a x service model = .ok e.survival := by
  rcases e with ⟨service', model', p⟩
  rw [entryOf]
  cases metric m a x service model with
  | error error => simp [Except.toOption]
  | ok q => simp [Except.toOption, eq_comm]

theorem mem_entries {e : Entry P} : e ∈ entries m a x ↔ e.service ∈ a.services ∧
    e.model ∈ a.pool.models ∧ metric m a x e.service e.model = .ok e.survival := by
  simp only [entries, List.mem_flatMap, List.mem_filterMap, entryOf_eq_some]
  constructor
  · rintro ⟨service, hs, model, hm, rfl, rfl, value⟩
    exact ⟨hs, hm, value⟩
  · rintro ⟨hs, hm, value⟩
    exact ⟨e.service, hs, e.model, hm, rfl, rfl, value⟩

theorem ordered_entries (services : a.services.Pairwise fun s t => compare s t = .lt) :
    (entries m a x).Pairwise fun d e => Entry.order d e = .lt := by
  simp only [order_lt_iff]
  refine List.pairwise_flatMap.mpr ⟨fun service _ => ?_, services.imp fun less d hd e he => ?_⟩
  · refine List.pairwise_filterMap.mpr (a.pool.ordered_models.imp fun less d hd e he => Or.inr ?_)
    obtain ⟨rfl, rfl, -⟩ := entryOf_eq_some.mp hd
    obtain ⟨same, rfl, -⟩ := entryOf_eq_some.mp he
    exact ⟨same.symm, less⟩
  · obtain ⟨_, -, hd⟩ := List.mem_filterMap.mp hd
    obtain ⟨_, -, he⟩ := List.mem_filterMap.mp he
    obtain ⟨rfl, -⟩ := entryOf_eq_some.mp hd
    obtain ⟨rfl, -⟩ := entryOf_eq_some.mp he
    exact Or.inl less

end Entries

section Depot

end Depot

end Redundancy

end RobotTeam
