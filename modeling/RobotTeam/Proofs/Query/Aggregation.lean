import RobotTeam.Proofs.FactBase.Declarations
import RobotTeam.Proofs.Query.Interleaving
import RobotTeam.Proofs.Query.TotalBounds

/-! The law of totals. A total is determined by what the stored models declare and by how often each of
them is counted. It depends neither on the order of the declarations nor on what was looked up before,
and over two pools together it is the sum of their totals, cut off at the largest count. -/

namespace RobotTeam

namespace Pool

variable (p q : Pool)

def join : Pool := ofEntries (p.entries ++ q.entries)

theorem noZeros_join : (p.join q).NoZeros := noZeros_ofEntries _

theorem count_join (m : Iri) : (p.join q).count m = p.count m + q.count m := by
  rw [join, count_ofEntries, amount_append, amount_entries, amount_entries]

variable {p q}

theorem mem_models_of_count_pos {m : Iri} (h : 0 < p.count m) : m ∈ p.models := by
  rw [← map_fst_entries]
  exact List.mem_map_of_mem (mem_entries_of_count_pos h)

theorem mem_models_join (hp : p.NoZeros) (hq : q.NoZeros) {m : Iri} :
    m ∈ (p.join q).models ↔ m ∈ p.models ∨ m ∈ q.models := by
  rw [(noZeros_join p q).mem_models_iff, hp.mem_models_iff, hq.mem_models_iff, count_join]
  omega

/-- Two pools weigh together what each of them weighs. -/
theorem sum_entries_join (w : Iri → ℕ) (p q : Pool) :
    ((p.join q).entries.map fun e => w e.1 * e.2).sum =
      (p.entries.map fun e => w e.1 * e.2).sum + (q.entries.map fun e => w e.1 * e.2).sum := by
  have left : ∀ m ∈ p.models, m ∈ p.models.toFinset ∪ q.models.toFinset := by
    intro m hm
    simp [hm]
  have right : ∀ m ∈ q.models, m ∈ p.models.toFinset ∪ q.models.toFinset := by
    intro m hm
    simp [hm]
  have both : ∀ m ∈ (p.join q).models, m ∈ p.models.toFinset ∪ q.models.toFinset := by
    intro m hm
    rw [(noZeros_join p q).mem_models_iff, count_join, Nat.add_pos_iff_pos_or_pos] at hm
    rcases hm with some | some
    · exact left m (mem_models_of_count_pos some)
    · exact right m (mem_models_of_count_pos some)
  rw [sum_entries w left, sum_entries w right, sum_entries w both, ← Finset.sum_add_distrib]
  apply Finset.sum_congr rfl
  intro m _
  rw [count_join, Nat.mul_add]

end Pool

namespace Restriction

theorem declared_perm {restrictions permuted : List Restriction} (perm : restrictions.Perm permuted)
    (kind : Kind) (c : Iri) : declared kind restrictions c = declared kind permuted c :=
  (perm.map _).sum_eq

theorem declared_objects (property : Iri) (kind : Kind) (entries : List (Iri × ℕ)) (c : Iri) :
    declared kind (entries.map fun e => .object property e.1 e.2 kind) c = Pool.amount entries c := by
  induction entries with
  | nil => rfl
  | cons e rest ih =>
    have sets : (object property e.1 e.2 kind).Sets kind := by
      simp [Sets, object, isObject, Filler.isClass, Kind.boundsAs]
    rw [List.map_cons, declared_cons, ih, Pool.amount_cons]
    exact congrArg (· + _) (if_congr (and_iff_right sets) rfl rfl)

/-- Both lists in one: it names the classes that either of them names, and declares on every class what
they declare on it together, cut off at the largest count. -/
def AddUp (kind : Kind) (left right both : List Restriction) : Prop :=
  ∀ c, (c ∈ both.map qualification ↔ c ∈ left.map qualification ∨ c ∈ right.map qualification) ∧
    declared kind both c = Count.addCapped (declared kind left c) (declared kind right c)

end Restriction

namespace TotalKey

open Restriction

variable {ω : Type} [Ontology ω] (o : ω) (k : TotalKey)

/-- A stored model declares something on the class that enters into the total, be it nothing. -/
def Declares (c : Iri) : Prop := ∃ m ∈ k.pool.models,
  ∃ r ∈ Ontology.restrictions o m k.property none, r.Sets k.kind ∧ r.qualification = c

/-- The list is in the order of the classes. It names the classes on which stored models declare
something, each with the amount that all instances of the pool declare, cut off at the largest count. -/
structure Aggregates (total : List Restriction) : Prop where
  ordered : total.Pairwise fun r t => compare r.qualification t.qualification = .lt
  named : ∀ c, c ∈ total.map qualification ↔ k.Declares o c
  amounts : ∀ r ∈ total, r = .object k.property r.qualification
    (Count.capped (k.amount o r.qualification)) k.reportedKind

theorem mem_sums_iff_declares (c : Iri) : c ∈ k.sums o ↔ k.Declares o c := by
  rw [mem_sums, Declares, ← Pool.map_fst_entries]
  simp

theorem aggregates_total : k.Aggregates o (k.total o) where
  ordered := by
    have keys : ((k.total o).map qualification).Pairwise fun a b => compare a b = .lt := by
      rw [map_qualification_total]
      exact Std.ExtTreeMap.ordered_keys
    exact List.pairwise_map.mp keys
  named c := by rw [map_qualification_total, Std.ExtTreeMap.mem_keys, mem_sums_iff_declares]
  amounts r hr := by
    obtain ⟨c, -, rfl⟩ := (mem_total o k).mp hr
    rfl

theorem declared_total (c : Iri) :
    declared k.reportedKind (k.total o) c = Count.capped (k.amount o c) := by
  rw [← getD_sums, total, declared_objects]
  exact Pool.amount_entries ⟨k.sums o⟩ c

variable {o k}

theorem Aggregates.mem_iff {total : List Restriction} (h : k.Aggregates o total) {r : Restriction} :
    r ∈ total ↔ k.Declares o r.qualification ∧ r = .object k.property r.qualification
      (Count.capped (k.amount o r.qualification)) k.reportedKind := by
  constructor
  · intro hr
    exact ⟨(h.named _).mp (List.mem_map_of_mem hr), h.amounts r hr⟩
  · rintro ⟨declares, exact⟩
    obtain ⟨t, ht, same⟩ := List.mem_map.mp ((h.named _).mpr declares)
    have entry := h.amounts t ht
    rw [same, ← exact] at entry
    exact entry ▸ ht

/-- There is only one such list, whatever else the two ontologies say. -/
theorem Aggregates.unique {ω' : Type} [Ontology ω'] {o' : ω'} {total other : List Restriction}
    (h : k.Aggregates o total) (h' : k.Aggregates o' other)
    (declares : ∀ c, k.Declares o c ↔ k.Declares o' c)
    (amounts : ∀ c, k.amount o c = k.amount o' c) : total = other := by
  apply Iri.eq_of_ordered qualification h.ordered h'.ordered
  intro r
  rw [h.mem_iff, h'.mem_iff, declares, amounts]

section Pools

variable {p q : Pool} {c : Iri}

theorem declares_join (hp : p.NoZeros) (hq : q.NoZeros) :
    { k with pool := p.join q }.Declares o c ↔
      { k with pool := p }.Declares o c ∨ { k with pool := q }.Declares o c := by
  simp only [Declares, Pool.mem_models_join hp hq, or_and_right, exists_or]

theorem amount_join : { k with pool := p.join q }.amount o c =
    { k with pool := p }.amount o c + { k with pool := q }.amount o c :=
  Pool.sum_entries_join (fun m => declared k.kind (Ontology.restrictions o m k.property none) c) p q

/-- Of two pools the totals may be formed apart. -/
theorem addUp_total_join (hp : p.NoZeros) (hq : q.NoZeros) :
    AddUp k.reportedKind ({ k with pool := p }.total o) ({ k with pool := q }.total o)
      ({ k with pool := p.join q }.total o) := by
  intro c
  constructor
  · rw [(aggregates_total o _).named, (aggregates_total o _).named, (aggregates_total o _).named,
      declares_join hp hq]
  · have whole := declared_total o { k with pool := p.join q } c
    have left := declared_total o { k with pool := p } c
    have right := declared_total o { k with pool := q } c
    rw [amount_join, ← Count.addCapped_capped, ← left, ← right] at whole
    exact whole

end Pools

section Order

variable {ω' : Type} [Ontology ω'] {o' : ω'}

def SameDeclared (o : ω) (o' : ω') (k : TotalKey) : Prop := ∀ m ∈ k.pool.models,
  (Ontology.restrictions o m k.property none).Perm (Ontology.restrictions o' m k.property none)

theorem SameDeclared.declares_iff (same : SameDeclared o o' k) (c : Iri) :
    k.Declares o c ↔ k.Declares o' c := by
  refine exists_congr fun m => and_congr_right fun stored => exists_congr fun r => ?_
  rw [(same m stored).mem_iff]

theorem SameDeclared.amount_eq (same : SameDeclared o o' k) (c : Iri) :
    k.amount o c = k.amount o' c := by
  unfold amount
  apply congrArg List.sum
  apply List.map_congr_left
  intro e he
  have stored : e.1 ∈ k.pool.models := by
    rw [← Pool.map_fst_entries]
    exact List.mem_map_of_mem he
  rw [declared_perm (same e.1 stored)]

theorem SameDeclared.total_eq (same : SameDeclared o o' k) : k.total o = k.total o' :=
  (aggregates_total o k).unique (aggregates_total o' k) same.declares_iff same.amount_eq

end Order

end TotalKey

namespace Session

variable {ω μ : Type} [Ontology ω] [Matcher μ ω] {o : ω} {s : Session μ}

def lookUp (o : ω) (s : Session μ) (k : TotalKey) : List Restriction :=
  (Query.run o (Query.totalOf k) s).1

theorem lookUp_eq_total (sound : s.cache.Sound o) (k : TotalKey) : s.lookUp o k = k.total o :=
  (Query.run_eq_answer (Query.totalOf k) sound).1

/-- Lookups answer the aggregate of what is declared. For two pools together that is the sum of what is
answered for each, and the order of the declarations does not matter. -/
theorem lookUp_aggregates (sound : s.cache.Sound o) (k : TotalKey) :
    k.Aggregates o (s.lookUp o k) ∧
    (∀ p q : Pool, p.NoZeros → q.NoZeros → Restriction.AddUp k.reportedKind
      (s.lookUp o { k with pool := p }) (s.lookUp o { k with pool := q })
      (s.lookUp o { k with pool := p.join q })) ∧
    ∀ {ω' μ' : Type} [Ontology ω'] [Matcher μ' ω'] {o' : ω'} {t : Session μ'},
      t.cache.Sound o' → TotalKey.SameDeclared o o' k → s.lookUp o k = t.lookUp o' k := by
  simp only [lookUp_eq_total sound]
  refine ⟨TotalKey.aggregates_total o k, fun p q => TotalKey.addUp_total_join, ?_⟩
  intro ω' μ' _ _ o' t sound' same
  rw [lookUp_eq_total sound']
  exact same.total_eq

section Hoists

def tug : Iri := ⟨"http://team#Tug"⟩

def rigging : List Declaration :=
  [.restriction hoist (.object carries hook 2 .max),
    .restriction tug (.object carries hook Count.limit .max),
    .restriction hoist (.object carries hook 1 .exact), .superclass tug hoist]

/-- Two hoists have six hooks, however they were declared, and with a tug they have no more than can be
counted. -/
theorem lookUp_aggregates_hoists :
    let s : Session Allocation := .fresh ⟨carries⟩
    let known := FactBase.ofDeclarations rigging
    let k : TotalKey := ⟨.single hoist 2, carries, .max, true⟩
    s.cache.Sound known ∧ (Pool.single hoist 2).NoZeros ∧ (Pool.single tug 1).NoZeros ∧
    TotalKey.SameDeclared known (FactBase.ofDeclarations rigging.reverse) k ∧
    s.lookUp known k = [.object carries hook 6 .min] ∧
    s.lookUp (FactBase.ofDeclarations rigging.reverse) k = [.object carries hook 6 .min] ∧
    Restriction.declared .min
      (s.lookUp known { k with pool := (Pool.single hoist 2).join (.single tug 1) }) hook =
        Count.limit := by
  intro s known k
  have sound : s.cache.Sound known := Cache.sound_empty known
  have hoists : (Pool.single hoist 2).NoZeros := Pool.noZeros_single hoist 2
  have tugs : (Pool.single tug 1).NoZeros := Pool.noZeros_single tug 1
  have same : TotalKey.SameDeclared known (FactBase.ofDeclarations rigging.reverse) k := by
    intro m _
    exact FactBase.restrictions_perm (List.reverse_perm rigging).symm m carries none
  have six : s.lookUp known k = [.object carries hook 6 .min] := by decide +kernel
  have sound' : s.cache.Sound (FactBase.ofDeclarations rigging.reverse) := Cache.sound_empty _
  obtain ⟨-, sums, order⟩ := lookUp_aggregates sound k
  have anew := order sound' same
  refine ⟨sound, hoists, tugs, same, six, anew.symm.trans six, ?_⟩
  exact ((sums _ _ hoists tugs hook).2).trans (by decide +kernel)

end Hoists

end Session

end RobotTeam
