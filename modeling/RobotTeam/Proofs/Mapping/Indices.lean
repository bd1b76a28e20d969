import RobotTeam.Proofs.Mapping.Insertion
import Mathlib.Data.List.Count
import Mathlib.Data.Nat.Notation

/-! The two directions of a mapping. Whatever is inserted, in place of something or not, a combination
stands among the supporters of a service as often as the service stands among its functions. -/

namespace RobotTeam.Mapping

def listing (supporters : Std.ExtTreeMap Iri (Array Combination)) (function : Iri) :
    List Combination := (supporters[function]?.map Array.toList).getD []

def listed (m : Mapping) (c : Combination) : List Iri := (m.functionsOf? c).getD []

def InStep (m : Mapping) : Prop :=
  ∀ c f, (listing m.supporters f).count c = (m.listed c).count f

section Supporters

variable (supporters : Std.ExtTreeMap Iri (Array Combination)) {c d : Combination} {f g : Iri}

theorem listing_dropSupporter : listing (dropSupporter c supporters f) g =
    if f = g then (listing supporters g).filter (· ≠ c) else listing supporters g := by
  unfold listing dropSupporter
  rw [Std.ExtTreeMap.getElem?_alter]
  by_cases h : f = g
  · subst h
    rw [if_pos Std.ReflCmp.compare_self, if_pos rfl]
    cases supporters[f]? with
    | none => rfl
    | some list =>
      have kept : (list.filter fun d => decide (d ≠ c)).toList =
          list.toList.filter fun d => decide (d ≠ c) := Array.toList_filter
      show (Option.map _ (if (list.filter fun d => decide (d ≠ c)).isEmpty then _ else _)).getD _ = _
      by_cases empty : (list.filter fun d => decide (d ≠ c)).isEmpty = true
      · rw [if_pos empty]
        rw [Array.isEmpty_iff.mp empty] at kept
        exact kept
      · rw [if_neg empty]
        exact kept
  · rw [if_neg h, if_neg (mt Std.LawfulEqCmp.compare_eq_iff_eq.mp h)]

theorem listing_addSupporter : listing (addSupporter c supporters f) g =
    if f = g then listing supporters g ++ [c] else listing supporters g := by
  unfold listing addSupporter
  rw [Std.ExtTreeMap.getElem?_alter]
  by_cases h : f = g
  · subst h
    rw [if_pos Std.ReflCmp.compare_self, if_pos rfl]
    cases supporters[f]? with
    | none => rfl
    | some list => exact Array.toList_push
  · rw [if_neg h, if_neg (mt Std.LawfulEqCmp.compare_eq_iff_eq.mp h)]

theorem count_dropSupporter : (listing (dropSupporter c supporters f) g).count d =
    if d = c ∧ f = g then 0 else (listing supporters g).count d := by
  rw [listing_dropSupporter]
  by_cases hf : f = g
  · by_cases hd : d = c
    · rw [if_pos hf, if_pos ⟨hd, hf⟩, List.count_eq_zero, List.mem_filter]
      simp [hd]
    · rw [if_pos hf, if_neg (fun both => hd both.1)]
      exact List.count_filter (decide_eq_true hd)
  · rw [if_neg hf, if_neg (fun both => hf both.2)]

theorem count_dropSupporters (functions : List Iri) :
    (listing (functions.foldl (dropSupporter c) supporters) g).count d =
      if d = c ∧ g ∈ functions then 0 else (listing supporters g).count d := by
  induction functions generalizing supporters with
  | nil => simp
  | cons f rest ih =>
    rw [List.foldl_cons, ih, count_dropSupporter]
    by_cases hd : d = c
    · simp only [hd, true_and, List.mem_cons, eq_comm (a := g)]
      by_cases hf : f = g <;> simp [hf]
    · simp [hd]

theorem count_addSupporters (functions : List Iri) :
    (listing (functions.foldl (addSupporter c) supporters) g).count d =
      (listing supporters g).count d + if d = c then functions.count g else 0 := by
  induction functions generalizing supporters with
  | nil => simp
  | cons f rest ih =>
    rw [List.foldl_cons, ih, listing_addSupporter, List.count_cons]
    by_cases hf : f = g
    · rw [if_pos hf, List.count_append, List.count_singleton]
      by_cases hd : d = c
      · simp [hf, hd]
        omega
      · simp [hd, Ne.symm hd]
    · simp [hf]

end Supporters

theorem inStep_empty (pool : Pool) : (empty pool).InStep := fun c f => by
  simp [listing, listed, functionsOf?, empty]

theorem listed_of_insert {m m' : Mapping} {c : Combination} {functions : List Iri}
    (h : m'.functions = m.functions.insert c functions) (d : Combination) :
    m'.listed d = if c = d then functions else m.listed d := by
  rw [listed, functionsOf?_of_insert h]
  split <;> rfl

/-- What was recorded for the combination before is withdrawn from the lists of supporters. -/
theorem InStep.insert {m m' : Mapping} {c : Combination} {functions : List Iri} (h : m.InStep)
    (done : m.insert c functions = .ok m') : m'.InStep := by
  unfold Mapping.insert at done
  split at done
  · cases done
    intro d f
    have before : m.functions.getD c [] = m.listed c := Std.ExtTreeMap.getD_eq_getD_getElem?
    rw [listed_of_insert (m := m) (c := c) rfl d, count_addSupporters, count_dropSupporters, h d f,
      before]
    by_cases hd : d = c
    · rw [if_pos hd, if_pos hd.symm]
      by_cases hf : f ∈ m.listed c
      · rw [if_pos ⟨hd, hf⟩, Nat.zero_add]
      · rw [if_neg (fun both => hf both.2), hd, List.count_eq_zero_of_not_mem hf, Nat.zero_add]
    · rw [if_neg (fun both => hd both.1), if_neg hd, if_neg (Ne.symm hd), Nat.add_zero]
  · cases done

theorem InStep.foldlM_insert {m m' : Mapping} (h : m.InStep) (record : Combination → List Iri)
    {cs : List Combination}
    (done : cs.foldlM (fun (m : Mapping) c => m.insert c (record c)) m = Except.ok m') :
    m'.InStep :=
  QueryError.kept_of_foldlM (fun before inserted => before.insert inserted) h done

theorem InStep.mem_iff {m : Mapping} (h : m.InStep) {c : Combination} {f : Iri} :
    c ∈ listing m.supporters f ↔ f ∈ m.listed c := by
  rw [← List.count_pos_iff, ← List.count_pos_iff, h c f]

theorem mem_combinations_iff {m : Mapping} {c : Combination} :
    c ∈ m.combinations ↔ (m.functionsOf? c).isSome = true := by
  rw [combinations, Std.ExtTreeMap.mem_keys, Std.ExtTreeMap.mem_iff_isSome_getElem?]
  rfl

theorem mem_combinations_of_listed {m : Mapping} {c : Combination} {function : Iri}
    (h : function ∈ m.listed c) : c ∈ m.combinations := by
  rw [mem_combinations_iff]
  rw [listed] at h
  cases e : m.functionsOf? c with
  | none => simp [e] at h
  | some functions => rfl

end RobotTeam.Mapping
