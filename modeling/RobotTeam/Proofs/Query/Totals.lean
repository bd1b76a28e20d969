import RobotTeam.Proofs.Pool.Counts
import RobotTeam.Query.Total

/-! What a total comes to: for every class, the sum of what the instances of the pool declare on it,
cut off at the largest count. It is of no consequence that sums and multiples are cut off on the way. -/

namespace RobotTeam

namespace Count

theorem capped_le (n : ℕ) : capped n ≤ limit := Nat.min_le_right n limit

theorem capped_le_self (n : ℕ) : capped n ≤ n := Nat.min_le_left n limit

theorem capped_eq {n : ℕ} (h : n ≤ limit) : capped n = n := Nat.min_eq_left h

theorem capped_mono {a b : ℕ} (h : a ≤ b) : capped a ≤ capped b := by
  unfold capped
  omega

theorem le_capped_iff {a n : ℕ} : a ≤ capped n ↔ a ≤ n ∧ a ≤ limit := Nat.le_min

theorem addCapped_capped (a b : ℕ) : addCapped (capped a) (capped b) = capped (a + b) := by
  unfold addCapped capped
  omega

theorem addCapped_capped_left (a b : ℕ) : addCapped (capped a) b = capped (a + b) := by
  unfold addCapped capped
  omega

theorem foldl_addCapped (counts : List ℕ) (a : ℕ) :
    counts.foldl addCapped (capped a) = capped (a + counts.sum) := by
  induction counts generalizing a with
  | nil => rfl
  | cons n rest ih => rw [List.foldl_cons, addCapped_capped_left, ih, List.sum_cons, Nat.add_assoc]

/-- Parts that are cut off before they are added up come to the same once the sum is cut off. -/
theorem capped_sum {ι : Type} (parts : Finset ι) (f : ι → ℕ) :
    capped (∑ i ∈ parts, capped (f i)) = capped (∑ i ∈ parts, f i) := by
  induction parts using Finset.cons_induction with
  | empty => rfl
  | cons i rest new ih =>
    rw [Finset.sum_cons, Finset.sum_cons, ← addCapped_capped, capped_eq (capped_le _), ih,
      addCapped_capped]

end Count

namespace Restriction

def Sets (kind : Kind) (r : Restriction) : Prop := (r.isObject && r.kind.boundsAs kind) = true

instance (kind : Kind) (r : Restriction) : Decidable (r.Sets kind) :=
  inferInstanceAs (Decidable ((r.isObject && r.kind.boundsAs kind) = true))

def share (kind : Kind) (model : Iri) (r : Restriction) : ℕ :=
  if r.Sets kind ∧ r.qualification = model then r.cardinality else 0

def declared (kind : Kind) (restrictions : List Restriction) (model : Iri) : ℕ :=
  (restrictions.map (share kind model)).sum

theorem declared_cons (kind : Kind) (r : Restriction) (rest : List Restriction) (model : Iri) :
    declared kind (r :: rest) model = r.share kind model + declared kind rest model := List.sum_cons

end Restriction

namespace TotalKey

open Restriction

variable {ω : Type} [Ontology ω] (o : ω) (k : TotalKey)

def amount (model : Iri) : ℕ :=
  (k.pool.entries.map fun e =>
    declared k.kind (Ontology.restrictions o e.1 k.property none) model * e.2).sum

section Steps

variable {kind : Kind} {n a : ℕ} {sums : Std.ExtTreeMap Iri ℕ} {model : Iri}

theorem getD_addRestriction (r : Restriction) (h : sums.getD model 0 = Count.capped a) :
    (addRestriction kind n sums r).getD model 0 = Count.capped (a + r.share kind model * n) := by
  unfold addRestriction share Sets
  by_cases counts : (r.isObject && r.kind.boundsAs kind) = true
  · rw [if_pos counts, Std.ExtTreeMap.getD_insert]
    by_cases named : r.qualification = model
    · subst named
      rw [if_pos (Std.ReflCmp.compare_self), if_pos ⟨counts, rfl⟩, h, Count.mulCapped,
        Count.addCapped_capped]
    · rw [if_neg (mt Std.LawfulEqCmp.compare_eq_iff_eq.mp named), if_neg (fun h => named h.2), h,
        Nat.zero_mul, Nat.add_zero]
  · rw [if_neg counts, if_neg (fun h => counts h.1), h, Nat.zero_mul, Nat.add_zero]

theorem mem_addRestriction (r : Restriction) : model ∈ addRestriction kind n sums r ↔
    (r.Sets kind ∧ r.qualification = model) ∨ model ∈ sums := by
  unfold addRestriction Sets
  by_cases counts : (r.isObject && r.kind.boundsAs kind) = true
  · simp [counts]
  · rw [if_neg counts]
    simp [counts]

theorem getD_addRestrictions (restrictions : List Restriction)
    (h : sums.getD model 0 = Count.capped a) :
    (restrictions.foldl (addRestriction kind n) sums).getD model 0 =
      Count.capped (a + declared kind restrictions model * n) := by
  induction restrictions generalizing sums a with
  | nil => simpa [declared] using h
  | cons r rest ih =>
    rw [List.foldl_cons, ih (getD_addRestriction r h), declared_cons, Nat.add_mul, Nat.add_assoc]

theorem mem_addRestrictions (restrictions : List Restriction) :
    model ∈ restrictions.foldl (addRestriction kind n) sums ↔
      (∃ r ∈ restrictions, r.Sets kind ∧ r.qualification = model) ∨ model ∈ sums := by
  induction restrictions generalizing sums with
  | nil => simp
  | cons r rest ih =>
    rw [List.foldl_cons, ih, mem_addRestriction, List.exists_mem_cons_iff, or_left_comm, or_assoc]

end Steps

/-- Saturating along the way comes to the same as saturating at the end. -/
theorem getD_sums (model : Iri) : (k.sums o).getD model 0 = Count.capped (k.amount o model) := by
  unfold sums amount
  suffices ∀ (sums : Std.ExtTreeMap Iri ℕ) (a : ℕ), sums.getD model 0 = Count.capped a →
      (k.pool.entries.foldl (fun sums e => (Ontology.restrictions o e.1 k.property none).foldl
        (addRestriction k.kind e.2) sums) sums).getD model 0 =
      Count.capped (a + (k.pool.entries.map fun e =>
        declared k.kind (Ontology.restrictions o e.1 k.property none) model * e.2).sum) by
    rw [this ∅ 0 Std.ExtTreeMap.getD_empty, Nat.zero_add]
  induction k.pool.entries with
  | nil => exact fun sums a h => h
  | cons e rest ih =>
    intro sums a h
    rw [List.foldl_cons, ih _ _ (getD_addRestrictions _ h), List.map_cons, List.sum_cons,
      Nat.add_assoc]

/-- A class has a total if some model of the pool declares something on it, be it nothing. -/
theorem mem_sums (model : Iri) : model ∈ k.sums o ↔ ∃ e ∈ k.pool.entries,
    ∃ r ∈ Ontology.restrictions o e.1 k.property none, r.Sets k.kind ∧ r.qualification = model := by
  unfold sums
  suffices ∀ sums : Std.ExtTreeMap Iri ℕ, model ∈ k.pool.entries.foldl
      (fun sums e => (Ontology.restrictions o e.1 k.property none).foldl
        (addRestriction k.kind e.2) sums) sums ↔
      (∃ e ∈ k.pool.entries, ∃ r ∈ Ontology.restrictions o e.1 k.property none,
        r.Sets k.kind ∧ r.qualification = model) ∨ model ∈ sums by
    rw [this ∅]
    simp
  induction k.pool.entries with
  | nil => simp
  | cons e rest ih =>
    intro sums
    rw [List.foldl_cons, ih, mem_addRestrictions, List.exists_mem_cons_iff, or_left_comm, or_assoc]

theorem map_qualification_total :
    (k.total o).map Restriction.qualification = (k.sums o).keys := by
  rw [total, List.map_map, ← Std.ExtTreeMap.map_fst_toList_eq_keys]
  rfl

theorem nodup_total : ((k.total o).map Restriction.qualification).Nodup := by
  rw [map_qualification_total]
  exact Std.ExtTreeMap.nodup_keys

theorem mem_total {r : Restriction} : r ∈ k.total o ↔ ∃ model ∈ k.sums o,
    r = .object k.property model (Count.capped (k.amount o model)) k.reportedKind := by
  rw [total, List.mem_map]
  constructor
  · rintro ⟨e, he, rfl⟩
    have stored := Std.ExtTreeMap.mem_toList_iff_getElem?_eq_some.mp he
    have value : (k.sums o).getD e.1 0 = e.2 := by
      rw [Std.ExtTreeMap.getD_eq_getD_getElem?, stored]
      rfl
    refine ⟨e.1, ?_, by rw [← getD_sums, value]⟩
    rw [Std.ExtTreeMap.mem_iff_isSome_getElem?, stored]
    rfl
  · rintro ⟨model, hm, rfl⟩
    refine ⟨(model, (k.sums o).getD model 0), ?_, by rw [getD_sums]⟩
    rw [Std.ExtTreeMap.mem_toList_iff_getElem?_eq_some, Std.ExtTreeMap.getD_eq_getD_getElem?]
    obtain ⟨n, hn⟩ := Option.isSome_iff_exists.mp (Std.ExtTreeMap.mem_iff_isSome_getElem?.mp hm)
    rw [hn]
    rfl

theorem amount_eq_zero {model : Iri} (h : model ∉ k.sums o) : k.amount o model = 0 := by
  have none := getD_sums o k model
  rw [Std.ExtTreeMap.getD_eq_fallback h] at none
  unfold Count.capped Count.limit at none
  omega

/-- Instances more than before add to the totals. -/
theorem amount_mono {p q : Pool} (h : p.Within q) (property : Iri) (kind : Kind) (maxToMin : Bool)
    (model : Iri) : amount o ⟨p, property, kind, maxToMin⟩ model ≤
      amount o ⟨q, property, kind, maxToMin⟩ model :=
  h.sum_entries_le fun m => declared kind (Ontology.restrictions o m property none) model

theorem amount_single (subject property : Iri) (n : ℕ) (kind : Kind) (maxToMin : Bool) (model : Iri) :
    amount o ⟨Pool.single subject n, property, kind, maxToMin⟩ model =
      declared kind (Ontology.restrictions o subject property none) model * n := by
  have one : ∀ m ∈ (Pool.single subject n).models, m ∈ ({subject} : Finset Iri) := by
    intro m hm
    rw [← Pool.map_fst_entries] at hm
    obtain ⟨e, he, rfl⟩ := List.mem_map.mp hm
    rw [Pool.mem_entries_single he]
    exact Finset.mem_singleton_self subject
  refine (Pool.sum_entries (fun m => declared kind (Ontology.restrictions o m property none) model)
    one).trans ?_
  rw [Finset.sum_singleton, Pool.count_single, if_pos rfl]

end TotalKey

end RobotTeam
