import RobotTeam.Redundancy.Leftovers
import Mathlib.Algebra.BigOperators.Fin
import Mathlib.Algebra.BigOperators.Pi
import Mathlib.Logic.Function.Iterate

/-! What handing out leftovers does to the records. Passes change neither what the records stand for
nor which bounds they can use, and every instance that can be used makes one record stronger by one,
which is a record that can use it. -/

namespace RobotTeam

variable {ω P : Type} [Ontology ω]

namespace Survivability

def subject (r : Survivability P) : Iri × ℕ × P := (r.qualification, r.minimum, r.base)

def grown (r : Survivability P) (n : ℕ) : Survivability P := increment^[n] r

theorem increment_grown (r : Survivability P) (n : ℕ) : (r.grown n).increment = r.grown (n + 1) :=
  (Function.iterate_succ_apply' increment n r).symm

theorem subject_grown (r : Survivability P) (n : ℕ) : (r.grown n).subject = r.subject := by
  induction n with
  | zero => rfl
  | succ n ih =>
    rw [← increment_grown]
    exact ih

theorem qualification_grown (r : Survivability P) (n : ℕ) :
    (r.grown n).qualification = r.qualification :=
  congrArg Prod.fst (r.subject_grown n)

theorem grown_eq {r : Survivability P} (fits : r.redundancy ≤ Count.limit) (n : ℕ) :
    r.grown n = { r with redundancy := Count.wrapped (r.redundancy + n) } := by
  induction n with
  | zero =>
    rw [Nat.add_zero, Count.wrapped_of_le fits]
    rfl
  | succ n ih => rw [← increment_grown, ih, increment, Count.next_wrapped, Nat.add_assoc]

end Survivability

namespace Redundancy

open Finset

def usable (o : ω) (records : List (Survivability P)) (model : Iri) : Bool :=
  records.any fun r => serves o model r.qualification

def supply (o : ω) (records : List (Survivability P)) (bounds : List Bound) : ℕ :=
  Bound.total (bounds.filter fun b => usable o records b.model)

variable {o : ω} {records stronger : List (Survivability P)} {model : Iri}

theorem supply_cons (b : Bound) (rest : List Bound) : supply o records (b :: rest) =
    (if usable o records b.model then b.max else 0) + supply o records rest := by
  by_cases h : usable o records b.model = true <;> simp [supply, Bound.total, h]

theorem strengthen?_none (h : strengthen? o model records = none) :
    usable o records model = false := by
  induction records with
  | nil => rfl
  | cons r rest ih =>
    rw [strengthen?] at h
    split at h
    · cases h
    · next unfit =>
      rw [Option.map_eq_none_iff] at h
      rw [usable, List.any_cons, Bool.not_eq_true _ |>.mp unfit, Bool.false_or]
      exact ih h

theorem strengthen?_some (h : strengthen? o model records = some stronger) :
    ∃ before r after, records = before ++ r :: after ∧ stronger = before ++ r.increment :: after ∧
      serves o model r.qualification = true := by
  induction records generalizing stronger with
  | nil => cases h
  | cons r rest ih =>
    rw [strengthen?] at h
    split at h
    · next fit =>
      cases h
      exact ⟨[], r, rest, rfl, rfl, fit⟩
    · rcases Option.map_eq_some_iff.mp h with ⟨later, hl, rfl⟩
      rcases ih hl with ⟨before, s, after, rfl, rfl, fit⟩
      exact ⟨r :: before, s, after, rfl, rfl, fit⟩

section Gains

variable {ι : Type} [Fintype ι]

def grown (start : ι → Survivability P) (gain : ι → ℕ) : Multiset (Survivability P) :=
  univ.val.map fun i => (start i).grown (gain i)

/-- What the records are given of the bounds. A bound is given to records that can use it, and as a
whole if there is one. -/
inductive Divided (o : ω) (start : ι → Survivability P) : List Bound → (ι → ℕ) → Prop where
  | nil : Divided o start [] 0
  | cons {b : Bound} {rest : List Bound} {share given : ι → ℕ}
      (fits : ∀ i, 0 < share i → serves o b.model (start i).qualification = true)
      (whole : ∀ i, serves o b.model (start i).qualification = true → ∑ j, share j = b.max)
      (later : Divided o start rest given) : Divided o start (b :: rest) (share + given)

variable {start : ι → Survivability P} {gain : ι → ℕ} {bounds : List Bound}

theorem coe_eq_grown_get (records : List (Survivability P)) :
    (records : Multiset (Survivability P)) = grown records.get 0 := by
  have same : List.ofFn (fun i => (records.get i).grown 0) = records := List.ofFn_get records
  rw [grown, Fin.univ_val_map]
  exact congrArg _ same.symm

theorem usable_grown (h : (records : Multiset (Survivability P)) = grown start gain) :
    usable o records model = true ↔ ∃ i, serves o model (start i).qualification = true := by
  have member : ∀ r, r ∈ records ↔ ∃ i, (start i).grown (gain i) = r := by
    intro r
    rw [← Multiset.mem_coe, h, grown, Multiset.mem_map]
    simp
  simp only [usable, List.any_eq_true, member]
  constructor
  · rintro ⟨r, ⟨i, rfl⟩, fit⟩
    rw [Survivability.qualification_grown] at fit
    exact ⟨i, fit⟩
  · rintro ⟨i, fit⟩
    refine ⟨_, ⟨i, rfl⟩, ?_⟩
    rwa [Survivability.qualification_grown]

/-- A bound that no record can use has nothing to give. -/
theorem sum_share (same : (records : Multiset (Survivability P)) = grown start gain) {b : Bound}
    {share : ι → ℕ} (fits : ∀ i, 0 < share i → serves o b.model (start i).qualification = true)
    (whole : ∀ i, serves o b.model (start i).qualification = true → ∑ j, share j = b.max) :
    ∑ i, share i = if usable o records b.model then b.max else 0 := by
  split
  · next used =>
    rcases (usable_grown same).mp used with ⟨i, fit⟩
    exact whole i fit
  · next unused =>
    apply Finset.sum_eq_zero
    intro i _
    by_contra positive
    exact unused ((usable_grown same).mpr ⟨i, fits i (Nat.pos_of_ne_zero positive)⟩)

namespace Divided

variable {b : Bound} {rest kept : List Bound} {given later : ι → ℕ}

/-- Nothing is given of a bound that is used up or that no record can use. -/
theorem idle (h : ∀ i, serves o b.model (start i).qualification = true → b.max = 0)
    (divided : Divided o start rest given) : Divided o start (b :: rest) given := by
  rw [← zero_add given]
  apply Divided.cons _ _ divided
  · intro i positive
    exact absurd positive (Nat.lt_irrefl 0)
  · intro i fit
    rw [h i fit]
    exact Finset.sum_eq_zero fun j _ => rfl

/-- One instance is given to a record and the others later on. -/
theorem draw [DecidableEq ι] {i : ι} (fit : serves o b.model (start i).qualification = true)
    (some : b.max ≠ 0) (divided : ∀ later, Divided o start kept later →
      Divided o start rest (given + later)) (h : Divided o start (b.lower 1 :: kept) later) :
    Divided o start (b :: rest) (Pi.single i 1 + given + later) := by
  cases h with
  | @cons _ _ share after fits whole h =>
    rw [add_add_add_comm]
    apply Divided.cons _ _ (divided after h)
    · intro j positive
      by_cases hj : j = i
      · rwa [hj]
      · apply fits j
        rwa [Pi.add_apply, Pi.single_eq_of_ne hj, Nat.zero_add] at positive
    · intro _ _
      have whole : ∑ j, share j = b.max - 1 := whole i fit
      simp only [Pi.add_apply, sum_add_distrib, whole, sum_pi_single', mem_univ, if_true]
      omega

/-- All instances that some record can use are given. -/
theorem sum_given (same : (records : Multiset (Survivability P)) = grown start gain)
    (h : Divided o start bounds given) : ∑ i, given i = supply o records bounds := by
  induction h with
  | nil => exact Finset.sum_eq_zero fun i _ => rfl
  | cons fits whole later ih =>
    simp only [Pi.add_apply, sum_add_distrib, ih, supply_cons, sum_share same fits whole]

end Divided

variable [DecidableEq ι]

theorem grown_eq_cons (start : ι → Survivability P) (gain : ι → ℕ) (i : ι) : grown start gain =
    (start i).grown (gain i) ::ₘ (univ.erase i).val.map fun j => (start j).grown (gain j) := by
  rw [grown, ← insert_erase (mem_univ i), insert_val_of_notMem (notMem_erase i univ),
    erase_insert (notMem_erase i univ), Multiset.map_cons]

theorem grown_single (start : ι → Survivability P) (gain : ι → ℕ) (i : ι) :
    grown start (gain + Pi.single i 1) = ((start i).grown (gain i)).increment ::ₘ
      (univ.erase i).val.map fun j => (start j).grown (gain j) := by
  rw [grown_eq_cons start _ i, Survivability.increment_grown, Pi.add_apply, Pi.single_eq_same]
  congr 1
  apply Multiset.map_congr rfl
  intro j hj
  have other : j ≠ i := ne_of_mem_erase hj
  rw [Pi.add_apply, Pi.single_eq_of_ne other, Nat.add_zero]

theorem strengthen?_grown (h : (records : Multiset (Survivability P)) = grown start gain)
    (hs : strengthen? o model records = some stronger) :
    ∃ i, serves o model (start i).qualification = true ∧
      (stronger : Multiset (Survivability P)) = grown start (gain + Pi.single i 1) := by
  rcases strengthen?_some hs with ⟨before, r, after, rfl, rfl, fit⟩
  have middle : ∀ r, ((before ++ r :: after : List (Survivability P)) : Multiset (Survivability P)) =
      r ::ₘ (before ++ after : List (Survivability P)) :=
    fun r => Multiset.coe_eq_coe.mpr List.perm_middle
  have member : r ∈ grown start gain := by
    rw [← h, middle]
    exact Multiset.mem_cons_self r _
  rcases Multiset.mem_map.mp member with ⟨i, -, rfl⟩
  rw [Survivability.qualification_grown] at fit
  refine ⟨i, fit, ?_⟩
  rw [middle, grown_eq_cons start gain i, Multiset.cons_inj_right] at h
  rw [middle, grown_single, h]

/-- A pass gives one instance of each bound that it keeps. -/
theorem handOutOnce_divided (o : ω) (bounds : List Bound)
    (h : (records : Multiset (Survivability P)) = grown start gain) :
    ∃ given, ((handOutOnce o records bounds).1 : Multiset (Survivability P)) =
        grown start (gain + given) ∧
      ∀ later, Divided o start (handOutOnce o records bounds).2 later →
        Divided o start bounds (given + later) := by
  induction bounds generalizing records gain with
  | nil =>
    refine ⟨0, by rwa [add_zero], fun later divided => ?_⟩
    rwa [zero_add]
  | cons b rest ih =>
    rw [handOutOnce]
    cases hs : strengthen? o b.model records with
    | none =>
      rcases ih h with ⟨given, final, divided⟩
      refine ⟨given, final, fun later kept => (divided later kept).idle fun i fit => ?_⟩
      have used := (usable_grown h).mpr ⟨i, fit⟩
      rw [strengthen?_none hs] at used
      cases used
    | some stronger =>
      rcases strengthen?_grown h hs with ⟨i, fit, same⟩
      by_cases empty : b.max = 0
      · rcases ih h with ⟨given, final, divided⟩
        simp only [empty, if_true]
        exact ⟨given, final, fun later kept => (divided later kept).idle fun _ _ => empty⟩
      · rcases ih same with ⟨given, final, divided⟩
        simp only [empty, if_false]
        refine ⟨Pi.single i 1 + given, by rwa [← add_assoc], fun later kept => ?_⟩
        exact kept.draw fit empty divided

theorem handOutOnce_mergeSort (weaker : Survivability P → Survivability P → Bool) {kept : List Bound}
    (pass : handOutOnce o (records.mergeSort weaker) bounds = (stronger, kept))
    (h : (records : Multiset (Survivability P)) = grown start gain) :
    ∃ given, (stronger : Multiset (Survivability P)) = grown start (gain + given) ∧
      ∀ later, Divided o start kept later → Divided o start bounds (given + later) := by
  have sorted : (records.mergeSort weaker : Multiset (Survivability P)) = grown start gain :=
    (Multiset.coe_eq_coe.mpr (List.mergeSort_perm records weaker)).trans h
  have once := handOutOnce_divided o bounds sorted
  rwa [pass] at once

/-- Over all passes the bounds are divided among the records. -/
theorem handOut_divided (o : ω) (weaker : Survivability P → Survivability P → Bool)
    (bounds : List Bound) (h : (records : Multiset (Survivability P)) = grown start gain) :
    ∃ given, Divided o start bounds given ∧
      (handOut o weaker records bounds : Multiset (Survivability P)) = grown start (gain + given) := by
  induction records, bounds using handOut.induct o weaker generalizing gain with
  -- a pass that keeps no bound is the last one
  | case1 records bounds final pass =>
    rcases handOutOnce_mergeSort weaker pass h with ⟨given, same, divided⟩
    rw [handOut, pass]
    exact ⟨given, add_zero given ▸ divided 0 .nil, same⟩
  | case2 records bounds final b kept pass ih =>
    rcases handOutOnce_mergeSort weaker pass h with ⟨given, same, divided⟩
    rcases ih same with ⟨later, rest, final⟩
    rw [handOut, pass]
    exact ⟨given + later, divided later rest, by rwa [← add_assoc]⟩

end Gains

/-- The leftovers are divided among the records, which end in some order. -/
theorem handOut_perm (o : ω) (weaker : Survivability P → Survivability P → Bool)
    (records : List (Survivability P)) (bounds : List Bound) :
    ∃ given, Divided o records.get bounds given ∧
      (handOut o weaker records bounds).Perm
        (List.ofFn fun i => (records.get i).grown (given i)) := by
  rcases handOut_divided o weaker bounds (coe_eq_grown_get records) with ⟨given, divided, same⟩
  rw [zero_add, grown, Fin.univ_val_map, Multiset.coe_eq_coe] at same
  exact ⟨given, divided, same⟩

/-- What the records stand for is the same after handing out, apart from their order. -/
theorem handOut_subject (weaker : Survivability P → Survivability P → Bool)
    (records : List (Survivability P)) (bounds : List Bound) :
    ((handOut o weaker records bounds).map Survivability.subject).Perm
      (records.map Survivability.subject) := by
  rcases handOut_perm o weaker records bounds with ⟨given, -, same⟩
  have subjects := same.map Survivability.subject
  rw [List.map_ofFn] at subjects
  have kept : (Survivability.subject ∘ fun i => (records.get i).grown (given i)) =
      Survivability.subject ∘ records.get := funext fun i => (records.get i).subject_grown (given i)
  rwa [kept, ← List.map_ofFn, List.ofFn_get] at subjects

/-- A single record gets all that it can use. -/
theorem handOut_singleton (weaker : Survivability P → Survivability P → Bool) (r : Survivability P)
    (bounds : List Bound) :
    handOut o weaker [r] bounds = [r.grown (supply o [r] bounds)] := by
  rcases handOut_perm o weaker [r] bounds with ⟨given, divided, same⟩
  have all : given 0 = supply o [r] bounds :=
    (Fin.sum_univ_one given).symm.trans (divided.sum_given (coe_eq_grown_get [r]))
  rw [← all]
  exact List.perm_singleton.mp same

end Redundancy

end RobotTeam
