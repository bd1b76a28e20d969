import RobotTeam.Pool.Delta
import RobotTeam.QueryError
import RobotTeam.Proofs.Pool.Canonical

/-! Converting differences into pools. A difference becomes the pool of its counts unless some count is
below zero or above what a pool can hold; the first such model, in the order of the models, is
reported. A count above the limit is thus reported as a negative one. -/

namespace RobotTeam.Delta

variable {d : Delta} {model : Iri}

def Fits (n : ℤ) : Prop := 0 ≤ n ∧ n ≤ Count.limit

instance (n : ℤ) : Decidable (Fits n) := inferInstanceAs (Decidable (0 ≤ n ∧ n ≤ Count.limit))

structure Refuses (d : Delta) (model : Iri) : Prop where
  unfit : ¬Fits (d.count model)
  first : ∀ other, ¬Fits (d.count other) → (compare model other).isLE

structure OnlyNegativesRefused (d : Delta) : Prop where
  refused_iff : (∃ model n, d.toPool = .error (.negativeCount model n)) ↔ d.isNegative = true
  reports_first : ∀ model n, d.toPool = .error (.negativeCount model n) →
    n < 0 ∧ d.count model = n ∧ ∀ other, d.count other < 0 → (compare model other).isLE
  converts : d.isNegative = false →
    ∃ p, d.toPool = .ok p ∧ ∀ model, (p.count model : ℤ) = d.count model

section Entries

theorem mem_entries {n : ℤ} : (model, n) ∈ d.entries ↔ d.counts[model]? = some n :=
  Std.ExtTreeMap.mem_toList_iff_getElem?_eq_some

theorem count_of_mem_entries {n : ℤ} (h : (model, n) ∈ d.entries) : d.count model = n := by
  rw [count, Std.ExtTreeMap.getD_eq_getD_getElem?, mem_entries.mp h]
  rfl

theorem mem_entries_of_count_ne_zero (h : d.count model ≠ 0) : (model, d.count model) ∈ d.entries := by
  cases e : d.counts[model]? with
  | none =>
    rw [count, Std.ExtTreeMap.getD_eq_getD_getElem?, e] at h
    exact absurd rfl h
  | some n =>
    rw [count_of_mem_entries (mem_entries.mpr e)]
    exact mem_entries.mpr e

theorem ordered_entries (d : Delta) : d.entries.Pairwise fun a b => compare a.1 b.1 = .lt :=
  Std.ExtTreeMap.ordered_keys_toList

theorem nodup_fst_entries (d : Delta) : (d.entries.map Prod.fst).Nodup := by
  rw [entries, Std.ExtTreeMap.map_fst_toList_eq_keys]
  exact Std.ExtTreeMap.nodup_keys

theorem fits_zero : Fits 0 := by decide

theorem mem_entries_of_not_fits (h : ¬Fits (d.count model)) : (model, d.count model) ∈ d.entries := by
  apply mem_entries_of_count_ne_zero
  intro zero
  rw [zero] at h
  exact h fits_zero

theorem isNegative_iff : d.isNegative = true ↔ ∃ model, d.count model < 0 := by
  rw [isNegative, List.any_eq_true]
  constructor
  · rintro ⟨⟨model, n⟩, he, negative⟩
    refine ⟨model, ?_⟩
    rw [count_of_mem_entries he]
    exact of_decide_eq_true negative
  · rintro ⟨model, negative⟩
    exact ⟨_, mem_entries_of_count_ne_zero negative.ne, decide_eq_true negative⟩

end Entries

section Conversion

def fault? (e : Iri × ℤ) : Option QueryError :=
  if Fits e.2 then none else some (.negativeCount e.1 e.2)

def setAll (p : Pool) (entries : List (Iri × ℤ)) : Pool :=
  entries.foldl (fun p e => p.set e.1 e.2.toNat) p

theorem poolCount?_of_fits {n : ℤ} (h : Fits n) : poolCount? n = some n.toNat := if_pos h

theorem poolCount?_of_not_fits {n : ℤ} (h : ¬Fits n) : poolCount? n = none := if_neg h

theorem toPool_eq (d : Delta) :
    d.toPool = (d.entries.findSome? fault?).elim (.ok (setAll ∅ d.entries)) .error := by
  refine foldlM_eq_elim_fault ?_ d.entries ∅
  intro p e
  unfold fault?
  by_cases fits : Fits e.2
  · rw [poolCount?_of_fits fits, if_pos fits]
    rfl
  · rw [poolCount?_of_not_fits fits, if_neg fits]
    rfl

theorem count_setAll_of_not_mem {entries : List (Iri × ℤ)} (p : Pool)
    (h : model ∉ entries.map Prod.fst) : (setAll p entries).count model = p.count model := by
  induction entries generalizing p with
  | nil => rfl
  | cons e rest ih =>
    rw [List.map_cons, List.mem_cons, not_or] at h
    rw [setAll, List.foldl_cons]
    exact (ih _ h.2).trans ((Pool.count_set p e.1 _ model).trans (if_neg (Ne.symm h.1)))

theorem count_setAll_of_mem {entries : List (Iri × ℤ)} (p : Pool) {n : ℤ}
    (different : (entries.map Prod.fst).Nodup) (h : (model, n) ∈ entries) :
    (setAll p entries).count model = n.toNat := by
  induction entries generalizing p with
  | nil => cases h
  | cons e rest ih =>
    obtain ⟨he, hrest⟩ := List.nodup_cons.mp different
    rw [setAll, List.foldl_cons]
    rcases List.mem_cons.mp h with rfl | h
    · exact (count_setAll_of_not_mem _ he).trans ((Pool.count_set p _ _ _).trans (if_pos rfl))
    · exact ih _ hrest h

theorem count_setAll_entries (d : Delta) (model : Iri) :
    (setAll ∅ d.entries).count model = (d.count model).toNat := by
  by_cases stored : model ∈ d.entries.map Prod.fst
  · obtain ⟨⟨_, n⟩, he, rfl⟩ := List.mem_map.mp stored
    rw [count_of_mem_entries he]
    exact count_setAll_of_mem ∅ (nodup_fst_entries d) he
  · have zero : d.count model = 0 := by
      by_contra nonzero
      exact stored (List.mem_map.mpr ⟨_, mem_entries_of_count_ne_zero nonzero, rfl⟩)
    rw [count_setAll_of_not_mem ∅ stored, zero, Pool.count_empty]
    rfl

theorem faultless_iff :
    d.entries.findSome? fault? = none ↔ ∀ model, Fits (d.count model) := by
  rw [List.findSome?_eq_none_iff]
  constructor
  · intro faultless model
    by_contra unfit
    have found := faultless _ (mem_entries_of_not_fits unfit)
    rw [fault?, if_neg unfit] at found
    cases found
  · rintro fits ⟨model, n⟩ he
    have stored := fits model
    rw [count_of_mem_entries he] at stored
    exact if_pos stored

theorem exists_refused {error : QueryError} (h : d.entries.findSome? fault? = some error) :
    ∃ model, d.Refuses model ∧ error = .negativeCount model (d.count model) := by
  obtain ⟨before, ⟨model, n⟩, after, split, hit, missed⟩ := List.findSome?_eq_some_iff.mp h
  have stored : d.count model = n := by
    apply count_of_mem_entries
    rw [split]
    simp
  have unfit : ¬Fits n := by
    intro fits
    rw [fault?, if_pos fits] at hit
    cases hit
  rw [fault?, if_neg unfit, Option.some.injEq] at hit
  refine ⟨model, ⟨by rwa [stored], ?_⟩, by rw [stored, hit]⟩
  intro other bad
  have order := ordered_entries d
  have place := mem_entries_of_not_fits bad
  rw [split] at order place
  rcases List.mem_append.mp place with early | place
  · have found := missed _ early
    rw [fault?, if_neg bad] at found
    cases found
  · rcases List.mem_cons.mp place with same | late
    · rw [show other = model from congrArg Prod.fst same]
      exact Std.ReflOrd.isLE_rfl
    · have later := (List.pairwise_cons.mp (List.pairwise_append.mp order).2.1).1
      exact Ordering.isLE_of_eq_lt (later _ late)

theorem Refuses.unique {other : Iri} (h : d.Refuses model) (k : d.Refuses other) : model = other :=
  Std.LawfulEqCmp.eq_of_compare
    (Std.OrientedCmp.isLE_antisymm (h.first other k.unfit) (k.first model h.unfit))

theorem toPool_of_fits (h : ∀ model, Fits (d.count model)) :
    ∃ p, d.toPool = .ok p ∧ ∀ model, (p.count model : ℤ) = d.count model := by
  refine ⟨setAll ∅ d.entries, ?_, ?_⟩
  · rw [toPool_eq, faultless_iff.mpr h]
    rfl
  · intro model
    rw [count_setAll_entries, Int.toNat_of_nonneg (h model).1]

theorem toPool_error_iff {error : QueryError} : d.toPool = .error error ↔
    ∃ model, d.Refuses model ∧ error = .negativeCount model (d.count model) := by
  cases found : d.entries.findSome? fault? with
  | none =>
    obtain ⟨p, converted, -⟩ := toPool_of_fits (faultless_iff.mp found)
    rw [converted]
    refine iff_of_false (by simp) ?_
    rintro ⟨model, refused, -⟩
    exact refused.unfit (faultless_iff.mp found model)
  | some first =>
    obtain ⟨model, refused, rfl⟩ := exists_refused found
    rw [toPool_eq, found]
    constructor
    · rintro ⟨⟩
      exact ⟨model, refused, rfl⟩
    · rintro ⟨other, also, rfl⟩
      rw [refused.unique also]
      rfl

theorem toPool_ok_iff {p : Pool} : d.toPool = .ok p ↔
    p.NoZeros ∧ ∀ model, (p.count model : ℤ) = d.count model ∧ p.count model ≤ Count.limit := by
  constructor
  · intro converted
    have fits : ∀ model, Fits (d.count model) := by
      rw [← faultless_iff]
      cases found : d.entries.findSome? fault? with
      | none => rfl
      | some error =>
        rw [toPool_eq, found] at converted
        cases converted
    obtain ⟨q, same, counts⟩ := toPool_of_fits fits
    rw [converted, Except.ok.injEq] at same
    subst same
    refine ⟨noZeros_of_toPool converted, fun model => ⟨counts model, ?_⟩⟩
    have most := (fits model).2
    rw [← counts model] at most
    exact Int.ofNat_le.mp most
  · rintro ⟨noZeros, counts⟩
    have fits : ∀ model, Fits (d.count model) := by
      intro model
      rw [← (counts model).1]
      exact ⟨Int.natCast_nonneg _, Int.ofNat_le.mpr (counts model).2⟩
    obtain ⟨q, converted, same⟩ := toPool_of_fits fits
    rw [converted, Except.ok.injEq]
    refine (noZeros_of_toPool converted).ext noZeros ?_
    intro model
    exact Int.ofNat_inj.mp ((same model).trans (counts model).1.symm)

end Conversion

section Refusal

theorem exists_refuses (h : ¬Fits (d.count model)) : ∃ first, d.Refuses first := by
  cases found : d.entries.findSome? fault? with
  | none => exact absurd (faultless_iff.mp found model) h
  | some error =>
    obtain ⟨first, refused, -⟩ := exists_refused found
    exact ⟨first, refused⟩

theorem not_fits_of_negative (h : d.count model < 0) : ¬Fits (d.count model) :=
  fun fits => absurd fits.1 h.not_ge

theorem not_fits_of_large (h : Count.limit < d.count model) : ¬Fits (d.count model) :=
  fun fits => absurd fits.2 h.not_ge

theorem Refuses.negative (h : d.Refuses model) (preceded : ∀ model, Count.limit < d.count model →
    ∃ earlier, compare earlier model = .lt ∧ d.count earlier < 0) : d.count model < 0 := by
  by_contra natural
  have large : Count.limit < d.count model := by
    by_contra small
    exact h.unfit ⟨not_lt.mp natural, not_lt.mp small⟩
  obtain ⟨earlier, before, negative⟩ := preceded model large
  exact Std.OrientedCmp.not_lt_of_isLE (h.first earlier (not_fits_of_negative negative)) before

theorem OnlyNegativesRefused.preceded (h : d.OnlyNegativesRefused)
    (large : Count.limit < d.count model) :
    ∃ earlier, compare earlier model = .lt ∧ d.count earlier < 0 := by
  have unfit := not_fits_of_large large
  obtain ⟨first, refused⟩ := exists_refuses unfit
  have negative := (h.reports_first _ _ (toPool_error_iff.mpr ⟨first, refused, rfl⟩)).1
  refine ⟨first, ?_, negative⟩
  rcases Ordering.isLE_iff_eq_lt_or_eq_eq.mp (refused.first model unfit) with before | same
  · exact before
  · rw [Std.LawfulEqCmp.eq_of_compare same] at negative
    omega

theorem onlyNegativesRefused_of_preceded (preceded : ∀ model, Count.limit < d.count model →
    ∃ earlier, compare earlier model = .lt ∧ d.count earlier < 0) : d.OnlyNegativesRefused where
  refused_iff := by
    rw [isNegative_iff]
    constructor
    · rintro ⟨model, n, refusal⟩
      obtain ⟨first, refused, -⟩ := toPool_error_iff.mp refusal
      exact ⟨first, refused.negative preceded⟩
    · rintro ⟨model, negative⟩
      obtain ⟨first, refused⟩ := exists_refuses (not_fits_of_negative negative)
      exact ⟨first, _, toPool_error_iff.mpr ⟨first, refused, rfl⟩⟩
  reports_first := by
    intro model n refusal
    obtain ⟨first, refused, same⟩ := toPool_error_iff.mp refusal
    cases same
    exact ⟨refused.negative preceded, rfl,
      fun other negative => refused.first other (not_fits_of_negative negative)⟩
  converts := by
    intro natural
    apply toPool_of_fits
    intro model
    by_contra unfit
    obtain ⟨first, refused⟩ := exists_refuses unfit
    rw [isNegative_iff.mpr ⟨first, refused.negative preceded⟩] at natural
    cases natural

end Refusal

/-- What a difference is converted to, and when only negative counts are in the way: exactly when every
count above the limit comes after a negative one. -/
theorem toPool_exact (d : Delta) :
    (∀ p, d.toPool = .ok p ↔
      p.NoZeros ∧ ∀ model, (p.count model : ℤ) = d.count model ∧ p.count model ≤ Count.limit) ∧
    (∀ error, d.toPool = .error error ↔
      ∃ model, d.Refuses model ∧ error = .negativeCount model (d.count model)) ∧
    (d.OnlyNegativesRefused ↔ ∀ model, Count.limit < d.count model →
      ∃ earlier, compare earlier model = .lt ∧ d.count earlier < 0) := by
  refine ⟨fun p => toPool_ok_iff, fun error => toPool_error_iff, ?_⟩
  constructor
  · intro documented model large
    exact documented.preceded large
  · exact onlyNegativesRefused_of_preceded

/-- A count above the limit is reported as a negative one, also where there is none. -/
theorem not_onlyNegativesRefused_large :
    let arm : Iri := ⟨"http://team#Arm"⟩
    let hook : Iri := ⟨"http://team#Hook"⟩
    let crowd : Delta := (∅ : Delta).set arm 4294967296
    crowd.toPool = .error (.negativeCount arm 4294967296) ∧ crowd.isNegative = false ∧
      ¬crowd.OnlyNegativesRefused ∧
      (crowd.set hook (-1)).toPool = .error (.negativeCount arm 4294967296) ∧
      ¬(crowd.set hook (-1)).OnlyNegativesRefused := by
  intro arm hook crowd
  have first : crowd.toPool = .error (.negativeCount arm 4294967296) := by decide
  have second : (crowd.set hook (-1)).toPool = .error (.negativeCount arm 4294967296) := by decide
  refine ⟨first, by decide, ?_, second, ?_⟩
  · intro h
    exact absurd (h.reports_first _ _ first).1 (by decide)
  · intro h
    exact absurd (h.reports_first _ _ second).1 (by decide)

end RobotTeam.Delta
