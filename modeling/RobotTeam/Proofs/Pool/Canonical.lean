import RobotTeam.Document.Pools
import RobotTeam.Proofs.Document.JsonValues
import RobotTeam.Proofs.Pool.Combination

/-! Canonical pools and combinations: no stored zeros, models in order. Every step that makes a pool
or a combination out of others gives canonical ones. Reading a document is the exception: it keeps
what is written, so that what is obtained is canonical exactly as long as the documents are. -/

namespace RobotTeam

namespace Pool

theorem NoZeros.count_of_atomicModel? {p : Pool} (h : p.NoZeros) {model : Iri}
    (atomic : p.atomicModel? = some model) : p.count model = 1 := by
  unfold atomicModel? at atomic
  split at atomic
  · next one =>
    have one : Count.sum (p.entries.map Prod.snd) = 1 := by simpa [isAtomic, instances] using one
    rw [← map_fst_entries] at atomic
    cases entries : p.entries with
    | nil =>
      rw [entries] at atomic
      cases atomic
    | cons e rest =>
      have he : e ∈ p.entries := by simp [entries]
      have positive := h e he
      rw [entries, List.map_cons, Count.sum_cons] at one
      rw [entries] at atomic
      cases atomic
      rw [count_of_mem_entries he]
      omega
  · cases atomic

end Pool

theorem Delta.noZeros_of_toPool {d : Delta} {p : Pool} (h : d.toPool = .ok p) : p.NoZeros := by
  refine QueryError.kept_of_foldlM ?_ Pool.noZeros_empty h
  intro before e after noZeros set
  cases fits : poolCount? e.2 with
  | none =>
    rw [fits] at set
    cases set
  | some n =>
    rw [fits] at set
    cases set
    exact noZeros.set e.1 n

mutual

/-- The pools and combinations that can be obtained, where certain documents may be read. Whatever adds
instances up stays within what a count can be. -/
inductive Pool.Obtained (documents : Format → Datum → Prop) : Pool → Prop where
  | empty : Pool.Obtained documents ∅
  | single (model : Iri) (n : ℕ) : Pool.Obtained documents (Pool.single model n)
  | ofModels (models : List Iri) (counted : ∀ m, models.count m ≤ Count.limit) :
    Pool.Obtained documents (Pool.ofModels models)
  | ofEntries (entries : List (Iri × ℕ)) (counted : ∀ m, Pool.amount entries m ≤ Count.limit) :
    Pool.Obtained documents (Pool.ofEntries entries)
  | set {p : Pool} (hp : Pool.Obtained documents p) (model : Iri) (n : ℕ) :
    Pool.Obtained documents (p.set model n)
  | add {p : Pool} (hp : Pool.Obtained documents p) (model : Iri) (n : ℕ)
    (counted : p.count model + n ≤ Count.limit) : Pool.Obtained documents (p.add model n)
  | cap {p upper : Pool} (hp : Pool.Obtained documents p) (hu : Pool.Obtained documents upper) :
    Pool.Obtained documents (p.cap upper)
  | ofCombination {c : Combination} (hc : Combination.Obtained documents c)
    (counted : ∀ m, c.models.count m ≤ Count.limit) :
    Pool.Obtained documents (Pool.ofCombination c)
  | ofDelta {d : Delta} {p : Pool} (fits : d.toPool = .ok p) : Pool.Obtained documents p
  | read {format : Format} {d : Datum} {p : Pool} (hd : documents format d)
    (is : Codec.read? format d = some p) : Pool.Obtained documents p

inductive Combination.Obtained (documents : Format → Datum → Prop) : Combination → Prop where
  | ofList (models : List Iri) : Combination.Obtained documents (Combination.ofList models)
  | ofPool {p : Pool} (hp : Pool.Obtained documents p) :
    Combination.Obtained documents (Combination.ofPool p)
  | read {format : Format} {d : Datum} {c : Combination} (hd : documents format d)
    (is : Codec.read? format d = some c) : Combination.Obtained documents c

end

namespace Datum

/-- As counts of models: where a model is named for the last time, it is not with a zero. -/
def WithoutZeros : Datum → Prop
  | .record fields => ∀ name, (fields : Fields).reverse.lookup name ≠ some (.integer 0)
  | _ => True

def InOrder : Datum → Prop
  | .list items => items.Pairwise fun x y => ∀ s t, x = .text s → y = .text t → (compare s t).isLE
  | _ => True

end Datum

section Documents

theorem Codec.count?_eq_zero {d : Datum} : Codec.count? d = some 0 ↔ d = .integer 0 := by
  constructor
  · intro h
    cases d with
    | integer n =>
      simp only [count?, natUpTo?, integerIn?] at h
      split at h
      · simp only [Option.map_some, Option.some.injEq] at h
        congr
        omega
      · cases h
    | _ => cases h
  · rintro rfl
    rfl

theorem Codec.lookup_model {fields : Fields} {entries : List (Iri × ℕ)} (name : String)
    (h : (fields.map fun f => (count? f.2).map ((⟨f.1⟩, ·) : ℕ → Iri × ℕ)) = entries.map some) :
    (entries.lookup ⟨name⟩).map some = (fields.lookup name).map count? := by
  induction fields generalizing entries with
  | nil =>
    cases entries with
    | nil => rfl
    | cons _ _ => cases h
  | cons f rest ih =>
    cases entries with
    | nil => cases h
    | cons e others =>
      rw [List.map_cons, List.map_cons, List.cons.injEq, Option.map_eq_some_iff] at h
      obtain ⟨⟨n, first, rfl⟩, h⟩ := h
      have key : ((⟨name⟩ : Iri) == ⟨f.1⟩) = (name == f.1) := by
        by_cases same : name = f.1 <;> simp [same]
      rw [List.lookup_cons, List.lookup_cons, key]
      cases name == f.1 with
      | true => exact congrArg some first.symm
      | false => exact ih h

theorem Pool.getElem?_ofList (entries : List (Iri × ℕ)) (model : Iri) :
    (Std.ExtTreeMap.ofList entries)[model]? = entries.reverse.lookup model := by
  rw [Std.ExtTreeMap.ofList_eq_insertMany_empty, Std.ExtTreeMap.getElem?_insertMany_list,
    List.findSomeRev?_eq_findSome?_reverse, List.lookup_eq_findSome?, Std.ExtTreeMap.getElem?_empty,
    Option.or_none]
  congr
  funext ⟨key, n⟩
  have same : compare key model = .eq ↔ (model == key) = true := by
    rw [Std.LawfulEqCmp.compare_eq_iff_eq, beq_iff_eq]
    exact eq_comm
  simp only [same]

theorem Pool.noZeros_read {format : Format} {d : Datum} {p : Pool}
    (h : Codec.read? format d = some p) : p.NoZeros ↔ d.WithoutZeros := by
  cases d with
  | record fields =>
    obtain ⟨entries, read, rfl⟩ := Option.map_eq_some_iff.mp h
    -- The map keeps the last of several entries, which is the first one in the reversed lists.
    have each := congrArg List.reverse (Codec.mapM_eq_some.mp read)
    rw [← List.map_reverse, ← List.map_reverse] at each
    have zero (name : String) : entries.reverse.lookup ⟨name⟩ = some 0 ↔
        (fields : Fields).reverse.lookup name = some (.integer 0) := by
      have same : (entries.reverse.lookup ⟨name⟩).map some = some (some 0) ↔
          ((fields : Fields).reverse.lookup name).map Codec.count? = some (some 0) := by
        rw [Codec.lookup_model name each]
      simpa [Option.map_eq_some_iff, Codec.count?_eq_zero] using same
    rw [Pool.noZeros_iff]
    constructor
    · intro h name last
      apply h ⟨name⟩
      rw [Pool.getElem?_ofList, zero]
      exact last
    · intro h model last
      rw [Pool.getElem?_ofList] at last
      exact h model.text ((zero model.text).mp last)
  | _ => cases h

theorem Codec.eq_text_of_read {format : Format} {d : Datum} {model : Iri}
    (h : read? format d = some model) : d = .text model.text := by
  cases d with
  | text s =>
    cases h
    rfl
  | _ => cases h

theorem Codec.eq_map_text_of_read {format : Format} {items : List Datum} {models : List Iri}
    (h : items.map (read? format) = models.map some) :
    items = models.map fun model => .text model.text := by
  induction items generalizing models with
  | nil =>
    cases models with
    | nil => rfl
    | cons _ _ => cases h
  | cons item rest ih =>
    cases models with
    | nil => cases h
    | cons model others =>
      rw [List.map_cons, List.map_cons, List.cons.injEq] at h
      rw [List.map_cons, ← eq_text_of_read h.1, ← ih h.2]

/-- Only what is written for a combination is read as this combination. -/
theorem Combination.eq_write_of_read {format : Format} {d : Datum} {c : Combination}
    (h : Codec.read? format d = some c) : d = Codec.write c := by
  obtain ⟨models, read, rfl⟩ := Option.map_eq_some_iff.mp h
  cases d with
  | list items => exact congrArg Datum.list (Codec.eq_map_text_of_read (Codec.mapM_eq_some.mp read))
  | _ => cases read

theorem Combination.inOrder_write {c : Combination} : (Codec.write c).InOrder ↔ c.Sorted := by
  show (c.models.map fun model => Datum.text model.text).Pairwise _ ↔ _
  rw [List.pairwise_map]
  refine List.Pairwise.iff ?_
  intro a b
  constructor
  · intro ordered
    exact ordered a.text b.text rfl rfl
  · rintro ordered s t ⟨⟩ ⟨⟩
    exact ordered

theorem Pool.NoZeros.withoutZeros_write {p : Pool} (h : p.NoZeros) :
    (Codec.write p).WithoutZeros := by
  intro name last
  obtain ⟨_, _, place, -⟩ := List.lookup_eq_some_iff.mp last
  have written : (name, Datum.integer 0) ∈
      p.entries.map fun e => (e.1.text, Codec.writeNat e.2) := by
    rw [← List.mem_reverse, place]
    simp
  obtain ⟨e, he, zero⟩ := List.mem_map.mp written
  have positive := h e he
  simp only [Codec.writeNat, Prod.mk.injEq, Datum.integer.injEq] at zero
  omega

end Documents

structure CanonicalDocuments (documents : Format → Datum → Prop) : Prop where
  withoutZeros : ∀ {format d}, documents format d →
    ∀ {p : Pool}, Codec.read? format d = some p → d.WithoutZeros
  inOrder : ∀ {format d}, documents format d →
    ∀ {c : Combination}, Codec.read? format d = some c → d.InOrder

section Obtained

variable {documents : Format → Datum → Prop}

/-- Only setting and adding depend on the pool before: capping a pool and collecting a combination
start from the empty pool. -/
theorem Pool.Obtained.noZeros (canonical : CanonicalDocuments documents) :
    ∀ {p : Pool}, Obtained documents p → p.NoZeros
  | _, .empty => noZeros_empty
  | _, .single model n => noZeros_single model n
  | _, .ofModels models _ => noZeros_ofModels models
  | _, .ofEntries entries _ => noZeros_ofEntries entries
  | _, .set hp model n => (hp.noZeros canonical).set model n
  | _, .add hp model n _ => (hp.noZeros canonical).add model n
  | _, .cap _ _ => noZeros_cap _ _
  | _, .ofCombination (c := c) _ _ => c.noZeros_toPool
  | _, .ofDelta fits => Delta.noZeros_of_toPool fits
  | _, .read hd is => (noZeros_read is).mpr (canonical.withoutZeros hd is)

theorem Combination.Obtained.sorted (canonical : CanonicalDocuments documents) {c : Combination}
    (h : Obtained documents c) : c.Sorted := by
  cases h with
  | ofList models => exact sorted_ofList models
  | ofPool hp => exact sorted_ofList _
  | read hd is =>
    rw [← inOrder_write, ← eq_write_of_read is]
    exact canonical.inOrder hd is

structure Canonical (documents : Format → Datum → Prop) : Prop where
  noZeros : ∀ p, Pool.Obtained documents p → p.NoZeros
  sorted : ∀ c, Combination.Obtained documents c → c.Sorted
  pool_ext : ∀ p q, Pool.Obtained documents p → Pool.Obtained documents q →
    (∀ m, p.count m = q.count m) → p = q
  combination_ext : ∀ c d, Combination.Obtained documents c → Combination.Obtained documents d →
    (∀ m, c.models.count m = d.models.count m) → c = d
  atomic : ∀ p model, Pool.Obtained documents p → p.atomicModel? = some model → p.count model = 1

theorem CanonicalDocuments.canonical (h : CanonicalDocuments documents) : Canonical documents where
  noZeros _ hp := hp.noZeros h
  sorted _ hc := hc.sorted h
  pool_ext _ _ hp hq := (hp.noZeros h).ext (hq.noZeros h)
  combination_ext _ _ hc hd := (hc.sorted h).ext (hd.sorted h)
  atomic _ _ hp := (hp.noZeros h).count_of_atomicModel?

end Obtained

/-- Everything that is obtained without counting too far is canonical exactly when the documents are. -/
theorem canonical_iff (documents : Format → Datum → Prop) :
    Canonical documents ↔ CanonicalDocuments documents := by
  constructor
  · intro h
    constructor
    · intro format d hd p is
      exact (Pool.noZeros_read is).mp (h.noZeros p (.read hd is))
    · intro format d hd c is
      have sorted := h.sorted c (.read hd is)
      rwa [Combination.eq_write_of_read is, Combination.inOrder_write]
  · exact CanonicalDocuments.canonical

/-- A zero that is read is kept: the pool differs from the pool of the same counts that was made
here, and its only instance is taken to be of a model that it has none of. Names that are read out
of order stay so. -/
theorem not_canonical_read :
    let arm : Iri := ⟨"http://team#Arm"⟩
    let hook : Iri := ⟨"http://team#Hook"⟩
    (∃ p : Pool,
      Codec.read? .json (.record [(arm.text, .integer 0), (hook.text, .integer 1)]) = some p ∧
      ¬p.NoZeros ∧ (∀ m, p.count m = (Pool.single hook 1).count m) ∧ p ≠ Pool.single hook 1 ∧
      p.atomicModel? = some arm ∧ p.count arm = 0) ∧
    (∃ c : Combination, Codec.read? .json (.list [.text hook.text, .text arm.text]) = some c ∧
      ¬c.Sorted ∧ (∀ m, c.models.count m = (Combination.ofList c.models).models.count m) ∧
      c ≠ Combination.ofList c.models) ∧
    ¬Canonical fun _ _ => True := by
  intro arm hook
  have stored : Codec.read? .json (.record [(arm.text, .integer 0), (hook.text, .integer 1)]) =
      some (⟨Std.ExtTreeMap.ofList [(arm, 0), (hook, 1)]⟩ : Pool) := rfl
  have zero : ¬(⟨Std.ExtTreeMap.ofList [(arm, 0), (hook, 1)]⟩ : Pool).NoZeros := by decide
  have unsorted : ¬(⟨[hook, arm]⟩ : Combination).Sorted := by decide
  refine ⟨⟨_, stored, zero, ?_, by decide, by decide, by decide⟩,
    ⟨⟨[hook, arm]⟩, rfl, unsorted, ?_, ?_⟩, ?_⟩
  · intro m
    have last : [(arm, 0), (hook, 1)].reverse = [(hook, 1), (arm, 0)] := rfl
    rw [Pool.count, Std.ExtTreeMap.getD_eq_getD_getElem?, Pool.getElem?_ofList, Pool.count_single,
      last, List.lookup_cons, List.lookup_cons]
    by_cases isHook : hook = m
    · rw [if_pos isHook, beq_iff_eq.mpr isHook.symm]
      rfl
    · rw [if_neg isHook, beq_eq_false_iff_ne.mpr (Ne.symm isHook)]
      cases m == arm <;> rfl
  · intro m
    exact ((Combination.ofList_perm _).count_eq m).symm
  · intro same
    rw [same] at unsorted
    exact unsorted (Combination.sorted_ofList _)
  · intro h
    exact zero (h.noZeros _ (.read trivial stored))

/-- Documents that were written from canonical values leave everything canonical. -/
theorem canonical_written : Canonical fun _ d =>
    (∃ p : Pool, p.NoZeros ∧ d = Codec.write p) ∨
      ∃ c : Combination, c.Sorted ∧ d = Codec.write c := by
  apply CanonicalDocuments.canonical
  constructor
  · rintro _ _ (⟨p, hp, rfl⟩ | ⟨c, _, rfl⟩) _ _
    · exact hp.withoutZeros_write
    · trivial
  · rintro _ _ (⟨p, _, rfl⟩ | ⟨c, hc, rfl⟩) _ _
    · trivial
    · exact Combination.inOrder_write.mpr hc

end RobotTeam
