import RobotTeam.Restriction.Bound
import RobotTeam.QueryError
import Mathlib.Data.List.Sort
import Mathlib.Data.Nat.Notation

/-! What merging makes of restrictions: one bound for every class that they name, in the order of the
classes, whose limits are the largest lower and the smallest upper limit that is set on the class, in
whatever order the restrictions stand. It fails where a restriction is on a datatype or of unknown
kind. -/

namespace RobotTeam

/-- Lists in the order of their names are equal when they have the same members. -/
theorem Iri.eq_of_ordered {α : Type} (name : α → Iri) {left right : List α}
    (hl : left.Pairwise fun a b => compare (name a) (name b) = .lt)
    (hr : right.Pairwise fun a b => compare (name a) (name b) = .lt)
    (same : ∀ a, a ∈ left ↔ a ∈ right) : left = right := by
  have irrefl : Std.Irrefl fun a b : α => compare (name a) (name b) = .lt := by
    constructor
    intro a less
    exact Std.OrientedCmp.not_lt_of_lt less less
  have antisymm : Std.Antisymm fun a b : α => compare (name a) (name b) = .lt := by
    constructor
    intro a b less greater
    exact absurd greater (Std.OrientedCmp.not_lt_of_lt less)
  exact hl.eq_of_mem_iff hr same

namespace Restriction

def Counts (r : Restriction) : Prop := r.isObject = true ∧ r.kind ≠ .unknown

instance (r : Restriction) : Decidable r.Counts :=
  inferInstanceAs (Decidable (r.isObject = true ∧ r.kind ≠ .unknown))

def least (r : Restriction) : ℕ :=
  match r.kind with
  | .min => r.cardinality
  | .exact => r.cardinality
  | _ => 0

def most (r : Restriction) : ℕ :=
  match r.kind with
  | .max => r.cardinality
  | .exact => r.cardinality
  | _ => Bound.unbounded

theorem least_pos_iff {r : Restriction} :
    0 < r.least ↔ (r.kind = .min ∨ r.kind = .exact) ∧ 0 < r.cardinality := by
  cases h : r.kind <;> simp [least, h]

theorem Counts.expectClass {r : Restriction} (h : r.Counts) : r.expectClass = .ok r.qualification := by
  rcases r with ⟨property, filler, cardinality, kind⟩
  cases filler with
  | ofClass name => rfl
  | ofDatatype name => cases h.1

end Restriction

namespace Bound

variable {r : Restriction} {restrictions : List Restriction} {bounds : List Bound}

theorem interval_of_counts (h : r.Counts) : interval r = .ok (r.least, r.most) := by
  have kind := h.2
  rw [interval, h.expectClass]
  cases e : r.kind with
  | unknown => exact absurd e kind
  | _ => simp [Restriction.least, Restriction.most, e, bind, Except.bind]

theorem interval_error (h : ¬r.Counts) : ∃ reason, interval r = .error (.typeMismatch reason) := by
  rcases r with ⟨property, filler, cardinality, kind⟩
  cases filler with
  | ofDatatype name => exact ⟨_, rfl⟩
  | ofClass name =>
    cases kind with
    | unknown => exact ⟨_, rfl⟩
    | _ => exact absurd ⟨rfl, by simp⟩ h

def narrowBy (known : Intervals) (r : Restriction) : Intervals :=
  narrow known r.qualification r.least r.most

def fault? (r : Restriction) : Option QueryError :=
  match interval r with
  | .ok _ => none
  | .error e => some e

theorem fault?_of_counts (h : r.Counts) : fault? r = none := by
  rw [fault?, interval_of_counts h]

theorem fault?_of_not_counts (h : ¬r.Counts) : ∃ reason, fault? r = some (.typeMismatch reason) := by
  obtain ⟨reason, he⟩ := interval_error h
  exact ⟨reason, by rw [fault?, he]⟩

theorem narrow_eq (known : Intervals) (r : Restriction) :
    (do
      let (least, most) ← interval r
      return narrow known r.qualification least most) =
      (fault? r).elim (Except.ok (narrowBy known r)) Except.error := by
  by_cases h : r.Counts
  · rw [interval_of_counts h, fault?_of_counts h]
    rfl
  · obtain ⟨reason, he⟩ := interval_error h
    rw [fault?, he]
    rfl

theorem merge_eq (restrictions : List Restriction) : merge restrictions =
    (restrictions.findSome? fault?).elim
      (.ok ((restrictions.foldl narrowBy ∅).toList.map fun e => ⟨e.1, e.2.1, e.2.2⟩)) .error := by
  rw [merge, foldlM_eq_elim_fault narrow_eq]
  cases restrictions.findSome? fault? <;> rfl

theorem merge_of_counts (h : ∀ r ∈ restrictions, r.Counts) : merge restrictions =
    .ok ((restrictions.foldl narrowBy ∅).toList.map fun e => ⟨e.1, e.2.1, e.2.2⟩) := by
  rw [merge_eq, List.findSome?_eq_none_iff.mpr fun r hr => fault?_of_counts (h r hr)]
  rfl

theorem merge_error (h : ∃ r ∈ restrictions, ¬r.Counts) :
    ∃ reason, merge restrictions = .error (.typeMismatch reason) := by
  rw [merge_eq]
  cases found : restrictions.findSome? fault? with
  | none =>
    obtain ⟨r, hr, bad⟩ := h
    obtain ⟨reason, he⟩ := fault?_of_not_counts bad
    rw [List.findSome?_eq_none_iff.mp found r hr] at he
    cases he
  | some error =>
    obtain ⟨r, -, hit⟩ := List.exists_of_findSome?_eq_some found
    by_cases counts : r.Counts
    · rw [fault?_of_counts counts] at hit
      cases hit
    · obtain ⟨reason, he⟩ := fault?_of_not_counts counts
      rw [he, Option.some.injEq] at hit
      exact ⟨reason, by rw [← hit]; rfl⟩

/-- Merging fails exactly where a restriction does not count. -/
theorem merge_ok_iff : (∃ bounds, merge restrictions = .ok bounds) ↔ ∀ r ∈ restrictions, r.Counts := by
  constructor
  · rintro ⟨bounds, h⟩
    by_contra bad
    push Not at bad
    obtain ⟨reason, he⟩ := merge_error bad
    simp [he] at h
  · intro h
    exact ⟨_, merge_of_counts h⟩

/-- The largest minimum that is set on the class. -/
def lowest (restrictions : List Restriction) (model : Iri) : ℕ :=
  restrictions.foldr (fun r low => if r.qualification = model then Max.max r.least low else low) 0

/-- The smallest maximum that is set on the class. -/
def highest (restrictions : List Restriction) (model : Iri) : ℕ :=
  restrictions.foldr (fun r high => if r.qualification = model then Min.min r.most high else high)
    unbounded

theorem lowest_cons (r : Restriction) (rest : List Restriction) (model : Iri) :
    lowest (r :: rest) model =
      if r.qualification = model then Max.max r.least (lowest rest model) else lowest rest model := rfl

theorem highest_cons (r : Restriction) (rest : List Restriction) (model : Iri) :
    highest (r :: rest) model =
      if r.qualification = model then Min.min r.most (highest rest model) else highest rest model := rfl

theorem le_highest_iff {model : Iri} {n : ℕ} : n ≤ highest restrictions model ↔
    n ≤ unbounded ∧ ∀ r ∈ restrictions, r.qualification = model → n ≤ r.most := by
  induction restrictions with
  | nil => simp [highest]
  | cons r rest ih =>
    rw [highest_cons, List.forall_mem_cons]
    by_cases h : r.qualification = model
    · simp only [h, if_true, forall_const, Nat.le_min, ih]
      tauto
    · simp [h, ih]

theorem highest_le (restrictions : List Restriction) (model : Iri) :
    highest restrictions model ≤ unbounded := (le_highest_iff.mp (Nat.le_refl _)).1

theorem highest_le_most {model : Iri} (hr : r ∈ restrictions) (named : r.qualification = model) :
    highest restrictions model ≤ r.most := (le_highest_iff.mp (Nat.le_refl _)).2 r hr named

theorem lowest_le_iff {model : Iri} {n : ℕ} : lowest restrictions model ≤ n ↔
    ∀ r ∈ restrictions, r.qualification = model → r.least ≤ n := by
  induction restrictions with
  | nil => simp [lowest]
  | cons r rest ih =>
    rw [lowest_cons, List.forall_mem_cons]
    by_cases h : r.qualification = model
    · simp only [h, if_true, forall_const, Nat.max_le, ih]
    · simp [h, ih]

theorem lowest_pos_iff {model : Iri} :
    0 < lowest restrictions model ↔ ∃ r ∈ restrictions, r.qualification = model ∧ 0 < r.least := by
  induction restrictions with
  | nil => simp [lowest]
  | cons r rest ih =>
    rw [lowest_cons, List.exists_mem_cons_iff, ← ih]
    by_cases h : r.qualification = model
    · simp only [h, if_true, true_and]
      omega
    · simp [h]

theorem lowest_eq_zero_iff {model : Iri} :
    lowest restrictions model = 0 ↔ ∀ r ∈ restrictions, r.qualification = model → r.least = 0 := by
  have positive : 0 < lowest restrictions model ↔ _ := lowest_pos_iff
  simpa [Nat.pos_iff_ne_zero] using not_congr positive

theorem lowest_of_not_mem {model : Iri} (h : model ∉ restrictions.map Restriction.qualification) :
    lowest restrictions model = 0 := by
  rw [lowest_eq_zero_iff]
  rintro r hr rfl
  exact absurd (List.mem_map_of_mem hr) h

/-- If there are no other restrictions on its class, a restriction is what is set on the class. -/
theorem lowest_of_mem (distinct : (restrictions.map Restriction.qualification).Nodup)
    (hr : r ∈ restrictions) : lowest restrictions r.qualification = r.least := by
  induction restrictions with
  | nil => cases hr
  | cons t rest ih =>
    obtain ⟨ht, hrest⟩ := List.nodup_cons.mp distinct
    rw [lowest_cons]
    rcases List.mem_cons.mp hr with rfl | hr
    · rw [if_pos rfl, lowest_of_not_mem ht, Nat.max_zero]
    · have other : t.qualification ≠ r.qualification := fun e => ht (e ▸ List.mem_map_of_mem hr)
      rw [if_neg other, ih hrest hr]

/-- Minimums that a map gives, one for each class. -/
theorem lowest_toList (property : Iri) (minima : Std.ExtTreeMap Iri ℕ) (model : Iri) :
    lowest (minima.toList.map fun e => .object property e.1 e.2 .min) model =
      minima.getD model 0 := by
  have names : (minima.toList.map fun e => Restriction.object property e.1 e.2 .min).map
      Restriction.qualification = minima.keys := by
    rw [List.map_map, ← Std.ExtTreeMap.map_fst_toList_eq_keys]
    rfl
  by_cases given : model ∈ minima
  · have entry : (model, minima.getD model 0) ∈ minima.toList := by
      rw [Std.ExtTreeMap.mem_toList_iff_getElem?_eq_some, Std.ExtTreeMap.getD_eq_getD_getElem?]
      obtain ⟨n, hn⟩ := Option.isSome_iff_exists.mp (Std.ExtTreeMap.mem_iff_isSome_getElem?.mp given)
      rw [hn]
      rfl
    exact lowest_of_mem (names ▸ Std.ExtTreeMap.nodup_keys) (List.mem_map_of_mem entry)
  · rw [Std.ExtTreeMap.getD_eq_fallback given, lowest_of_not_mem]
    rwa [names, Std.ExtTreeMap.mem_keys]

theorem highest_of_mem (distinct : (restrictions.map Restriction.qualification).Nodup)
    (hr : r ∈ restrictions) (bounded : r.most ≤ unbounded) :
    highest restrictions r.qualification = r.most := by
  refine Nat.le_antisymm (highest_le_most hr rfl) (le_highest_iff.mpr ⟨bounded, ?_⟩)
  intro t ht same
  obtain rfl := List.inj_on_of_nodup_map distinct ht hr same
  exact Nat.le_refl _

def limits (known : Intervals) (model : Iri) : ℕ × ℕ := known.getD model (0, unbounded)

theorem limits_narrowBy (known : Intervals) (r : Restriction) (model : Iri) :
    limits (narrowBy known r) model =
      if r.qualification = model then
        (Max.max (limits known model).1 r.least, Min.min (limits known model).2 r.most)
      else limits known model := by
  by_cases h : r.qualification = model
  · subst h
    simp [limits, narrowBy, narrow]
  · simp [limits, narrowBy, narrow, Std.ExtTreeMap.getD_insert, h]

theorem mem_narrowBy (known : Intervals) (r : Restriction) (model : Iri) :
    model ∈ narrowBy known r ↔ r.qualification = model ∨ model ∈ known := by
  simp [narrowBy, narrow]

theorem limits_foldl (known : Intervals) (model : Iri) (bound : (limits known model).2 ≤ unbounded) :
    limits (restrictions.foldl narrowBy known) model =
      (Max.max (limits known model).1 (lowest restrictions model),
        Min.min (limits known model).2 (highest restrictions model)) := by
  induction restrictions generalizing known with
  | nil => simp [lowest, highest, bound]
  | cons r rest ih =>
    rw [List.foldl_cons, lowest_cons, highest_cons]
    by_cases h : r.qualification = model
    · rw [ih _ (by rw [limits_narrowBy, if_pos h]; omega), limits_narrowBy, if_pos h, if_pos h, if_pos h,
        Nat.max_assoc, Nat.min_assoc]
    · rw [ih _ (by rwa [limits_narrowBy, if_neg h]), limits_narrowBy, if_neg h, if_neg h, if_neg h]

theorem mem_foldl_narrowBy (known : Intervals) (model : Iri) :
    model ∈ restrictions.foldl narrowBy known ↔
      model ∈ restrictions.map Restriction.qualification ∨ model ∈ known := by
  induction restrictions generalizing known with
  | nil => simp
  | cons r rest ih =>
    rw [List.foldl_cons, ih, mem_narrowBy, List.map_cons, List.mem_cons]
    constructor
    · rintro (h | h | h)
      · exact Or.inl (Or.inr h)
      · exact Or.inl (Or.inl h.symm)
      · exact Or.inr h
    · rintro ((h | h) | h)
      · exact Or.inr (Or.inl h.symm)
      · exact Or.inl h
      · exact Or.inr (Or.inr h)

structure Merged (restrictions : List Restriction) (bounds : List Bound) : Prop where
  sorted : bounds.Pairwise fun a b => compare a.model b.model = .lt
  models : ∀ model, model ∈ bounds.map Bound.model ↔ model ∈ restrictions.map Restriction.qualification
  min_eq : ∀ b ∈ bounds, b.min = lowest restrictions b.model
  max_eq : ∀ b ∈ bounds, b.max = highest restrictions b.model

theorem merged_of_merge (h : merge restrictions = .ok bounds) : Merged restrictions bounds := by
  have counts := merge_ok_iff.mp ⟨bounds, h⟩
  rw [merge_of_counts counts, Except.ok.injEq] at h
  subst h
  have empty : ∀ model, limits ∅ model = (0, unbounded) := fun model => by simp [limits]
  have entry : ∀ e ∈ (restrictions.foldl narrowBy ∅).toList,
      e.2 = (lowest restrictions e.1, highest restrictions e.1) := by
    intro e he
    have known := Std.ExtTreeMap.mem_toList_iff_getElem?_eq_some.mp he
    have all : limits (restrictions.foldl narrowBy ∅) e.1 = _ := limits_foldl ∅ e.1 (by simp [empty])
    rw [limits, Std.ExtTreeMap.getD_eq_getD_getElem?, known, empty] at all
    simpa [highest_le] using all
  refine ⟨?_, ?_, ?_, ?_⟩
  · rw [List.pairwise_map]
    exact Std.ExtTreeMap.ordered_keys_toList
  · intro model
    rw [List.map_map]
    show model ∈ List.map Prod.fst _ ↔ _
    rw [Std.ExtTreeMap.map_fst_toList_eq_keys, Std.ExtTreeMap.mem_keys, mem_foldl_narrowBy]
    simp
  · intro b hb
    obtain ⟨e, he, rfl⟩ := List.mem_map.mp hb
    exact congrArg Prod.fst (entry e he)
  · intro b hb
    obtain ⟨e, he, rfl⟩ := List.mem_map.mp hb
    exact congrArg Prod.snd (entry e he)

theorem Merged.exists_restriction (h : Merged restrictions bounds) {b : Bound} (hb : b ∈ bounds) :
    ∃ r ∈ restrictions, r.qualification = b.model :=
  List.mem_map.mp ((h.models b.model).mp (List.mem_map_of_mem hb))

theorem Merged.exists_bound (h : Merged restrictions bounds) (hr : r ∈ restrictions) :
    ∃ b ∈ bounds, b.model = r.qualification :=
  List.mem_map.mp ((h.models r.qualification).mpr (List.mem_map_of_mem hr))

theorem Merged.nodup (h : Merged restrictions bounds) : (bounds.map Bound.model).Nodup := by
  rw [List.Nodup, List.pairwise_map]
  refine h.sorted.imp ?_
  intro a b hab e
  simp [e] at hab

theorem Merged.length_eq (h : Merged restrictions bounds)
    (distinct : (restrictions.map Restriction.qualification).Nodup) :
    bounds.length = restrictions.length := by
  have same : (bounds.map Bound.model).Perm (restrictions.map Restriction.qualification) :=
    (List.perm_ext_iff_of_nodup h.nodup distinct).mpr h.models
  simpa using same.length_eq

theorem Merged.singleton (h : Merged [r] bounds) :
    bounds = [⟨r.qualification, r.least, highest [r] r.qualification⟩] := by
  have models : bounds.map Bound.model = [r.qualification] := by
    refine List.perm_singleton.mp ((List.perm_ext_iff_of_nodup h.nodup (by simp)).mpr ?_)
    exact h.models
  obtain ⟨⟨model, min, max⟩, rfl, rfl⟩ := List.map_eq_singleton_iff.mp models
  have least := h.min_eq _ List.mem_cons_self
  have most := h.max_eq _ List.mem_cons_self
  simp only [lowest_cons] at least
  simp_all [lowest]

section Order

variable {permuted : List Restriction} {bounds' : List Bound}

theorem lowest_perm (h : restrictions.Perm permuted) (model : Iri) :
    lowest restrictions model = lowest permuted model := by
  refine Nat.le_antisymm (lowest_le_iff.mpr ?_) (lowest_le_iff.mpr ?_)
  · intro r hr
    exact lowest_le_iff.mp (Nat.le_refl _) r (h.mem_iff.mp hr)
  · intro r hr
    exact lowest_le_iff.mp (Nat.le_refl _) r (h.mem_iff.mpr hr)

theorem highest_perm (h : restrictions.Perm permuted) (model : Iri) :
    highest restrictions model = highest permuted model := by
  refine Nat.le_antisymm (le_highest_iff.mpr ⟨highest_le _ _, ?_⟩)
    (le_highest_iff.mpr ⟨highest_le _ _, ?_⟩)
  · intro r hr named
    exact highest_le_most (h.mem_iff.mpr hr) named
  · intro r hr named
    exact highest_le_most (h.mem_iff.mp hr) named

theorem Merged.perm (h : Merged restrictions bounds) (order : restrictions.Perm permuted) :
    Merged permuted bounds where
  sorted := h.sorted
  models := fun model => (h.models model).trans (order.map _).mem_iff
  min_eq := fun b hb => (h.min_eq b hb).trans (lowest_perm order b.model)
  max_eq := fun b hb => (h.max_eq b hb).trans (highest_perm order b.model)

theorem Merged.mem_of_mem (h : Merged restrictions bounds) (h' : Merged restrictions bounds')
    {b : Bound} (hb : b ∈ bounds) : b ∈ bounds' := by
  have named := (h.models b.model).mp (List.mem_map_of_mem hb)
  obtain ⟨b', hb', model⟩ := List.mem_map.mp ((h'.models b.model).mpr named)
  have least : b'.min = b.min := by rw [h'.min_eq b' hb', h.min_eq b hb, model]
  have most : b'.max = b.max := by rw [h'.max_eq b' hb', h.max_eq b hb, model]
  have same : b' = b := by
    cases b
    cases b'
    simp_all
  exact same ▸ hb'

/-- The bounds are determined by what the restrictions say of each class. -/
theorem Merged.unique (h : Merged restrictions bounds) (h' : Merged restrictions bounds') :
    bounds = bounds' :=
  Iri.eq_of_ordered Bound.model h.sorted h'.sorted fun _ => ⟨h.mem_of_mem h', h'.mem_of_mem h⟩

theorem merge_perm (order : restrictions.Perm permuted) (counts : ∀ r ∈ restrictions, r.Counts) :
    merge restrictions = merge permuted := by
  obtain ⟨bounds, h⟩ := merge_ok_iff.mpr counts
  obtain ⟨bounds', h'⟩ := merge_ok_iff.mpr fun r hr => counts r (order.mem_iff.mpr hr)
  rw [h, h', ((merged_of_merge h).perm order).unique (merged_of_merge h')]

end Order

end Bound

end RobotTeam
