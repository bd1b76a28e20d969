import RobotTeam.Proofs.Restriction.Subtraction

/-! Which solutions can be subtracted, and what several of them leave. Only the sums of what is used
of each model count, so that solutions can be subtracted one after the other, in any order, or all at
once. -/

namespace RobotTeam

namespace Bound

variable {b : Bound} {used : Iri → ℕ} {bounds fewer : List Bound} {entries : List (Iri × ℕ)}

/-- For every model that is used there is a bound, and the first one has room for all of it. -/
def Affords (bounds : List Bound) (used : Iri → ℕ) : Prop :=
  ∀ model, 0 < used model →
    ∃ b, bounds.find? (·.model = model) = some b ∧ used model ≤ b.max

/-- What is left when so many instances of each model are used: the first bound of the model has that
many instances fewer and a minimum that it can still reach. All other bounds stay as they are. -/
structure Reduced (used : Iri → ℕ) (bounds fewer : List Bound) : Prop where
  length_eq : fewer.length = bounds.length
  first : ∀ {i b}, bounds[i]? = some b → 0 < used b.model →
    b.model ∉ (bounds.take i).map Bound.model →
    fewer[i]? = some ⟨b.model, Nat.min b.min (b.max - used b.model), b.max - used b.model⟩
  others : ∀ {i b}, bounds[i]? = some b →
    (used b.model = 0 ∨ b.model ∈ (bounds.take i).map Bound.model) → fewer[i]? = some b

theorem find?_cons_of_eq {model : Iri} (same : b.model = model) :
    (b :: bounds).find? (·.model = model) = some b :=
  List.find?_cons_of_pos (by simpa using same)

theorem find?_cons_of_ne {model : Iri} (other : b.model ≠ model) :
    (b :: bounds).find? (·.model = model) = bounds.find? (·.model = model) :=
  List.find?_cons_of_neg (by simpa using other)

theorem draw_min_le (ordered : b.min ≤ b.max) (n : ℕ) : (b.draw n).min ≤ (b.draw n).max := by
  unfold draw
  split
  · exact ordered
  · exact Nat.min_le_right _ _

namespace Drawn

theorem unique {fewer' : List Bound} (h : Drawn used bounds fewer)
    (h' : Drawn used bounds fewer') : fewer = fewer' := by
  induction h generalizing fewer' with
  | nil =>
    cases h'
    rfl
  | cons fits later ih =>
    cases h' with
    | cons _ later' => rw [ih later']

theorem find?_eq (h : Drawn used bounds fewer) (model : Iri) :
    fewer.find? (·.model = model) =
      (bounds.find? (·.model = model)).map (·.draw (used model)) := by
  induction h with
  | nil => rfl
  | @cons used b rest fewer fits later ih =>
    by_cases same : b.model = model
    · rw [find?_cons_of_eq ((draw_model b _).trans same), find?_cons_of_eq same, same]
      rfl
    · have other : (b.draw (used b.model)).model ≠ model := by rwa [draw_model]
      rw [find?_cons_of_ne other, find?_cons_of_ne same, ih, Function.update_of_ne (Ne.symm same)]

theorem used_le (h : Drawn used bounds fewer) {model : Iri}
    (first : bounds.find? (·.model = model) = some b) : used model ≤ b.max := by
  induction h with
  | nil => cases first
  | @cons used c rest fewer fits later ih =>
    by_cases same : c.model = model
    · rw [find?_cons_of_eq same, Option.some.injEq] at first
      rwa [← first, ← same]
    · rw [find?_cons_of_ne same] at first
      have fits := ih first
      rwa [Function.update_of_ne (Ne.symm same)] at fits

theorem getElem?_eq (h : Drawn used bounds fewer) {i : ℕ} (at_i : bounds[i]? = some b) :
    fewer[i]? = some (if b.model ∈ (bounds.take i).map Bound.model then b
      else b.draw (used b.model)) := by
  induction h generalizing i with
  | nil => cases at_i
  | @cons used c rest fewer fits later ih =>
    cases i with
    | zero =>
      cases at_i
      simp
    | succ i =>
      rw [List.getElem?_cons_succ] at at_i ⊢
      rw [ih at_i]
      -- a bound of the same model gives nothing once the first one has given everything
      by_cases same : b.model = c.model
      · simp [same]
      · simp [same]

theorem reduced (h : Drawn used bounds fewer) : Reduced used bounds fewer where
  length_eq := by
    induction h with
    | nil => rfl
    | cons fits later ih => rw [List.length_cons, List.length_cons, ih]
  first := by
    intro i b at_i positive isFirst
    rw [h.getElem?_eq at_i, if_neg isFirst, draw, if_neg (Nat.pos_iff_ne_zero.mp positive)]
    rfl
  others := by
    intro i b at_i unchanged
    rw [h.getElem?_eq at_i]
    split
    · rfl
    · next isFirst => rw [unchanged.resolve_right isFirst, draw_zero]

theorem ordered (h : Drawn used bounds fewer) (ordered : ∀ b ∈ bounds, b.min ≤ b.max) :
    ∀ b ∈ fewer, b.min ≤ b.max := by
  induction h with
  | nil => exact ordered
  | @cons used c rest fewer fits later ih =>
    rw [List.forall_mem_cons] at ordered ⊢
    exact ⟨draw_min_le ordered.1 _, ih ordered.2⟩

end Drawn

theorem take_ok_iff {model : Iri} {n : ℕ} : (∃ fewer, take model n bounds = .ok fewer) ↔
    ∃ b, bounds.find? (·.model = model) = some b ∧ n ≤ b.max := by
  induction bounds with
  | nil => simp [take]
  | cons c rest ih =>
    rw [take]
    by_cases same : c.model = model
    · rw [if_pos same, find?_cons_of_eq same]
      by_cases fits : c.max < n
      · simp [fits]
      · simp [fits, Nat.le_of_not_lt fits]
    · rw [if_neg same, find?_cons_of_ne same, ← ih]
      cases take model n rest <;> simp [Except.map]

theorem affords_cons_iff {e : Iri × ℕ} {mid : List Bound} (counted : e.2 ≠ 0)
    (first : take e.1 e.2 bounds = .ok mid) :
    Affords bounds (Pool.amount (e :: entries)) ↔ Affords mid (Pool.amount entries) := by
  have drawn := drawn_take counted first
  obtain ⟨c, found, -⟩ := take_ok_iff.mp ⟨mid, first⟩
  refine forall_congr' fun model => ?_
  rw [Pool.amount_cons, ← Pool.count_single, drawn.find?_eq model]
  cases at_model : bounds.find? (·.model = model) with
  | none =>
    have other : e.1 ≠ model := by
      rintro rfl
      rw [found] at at_model
      cases at_model
    simp [Pool.count_single, other]
  | some b =>
    have fits := drawn.used_le at_model
    have most := draw_max fits
    simp only [Option.map_some, Option.some.injEq, exists_eq_left']
    omega

theorem takeAll_ok_iff (counted : ∀ e ∈ entries, e.2 ≠ 0) :
    (∃ fewer, takeAll entries bounds = .ok fewer) ↔ Affords bounds (Pool.amount entries) := by
  induction entries generalizing bounds with
  | nil =>
    refine iff_of_true ⟨bounds, rfl⟩ fun model positive => ?_
    exact absurd positive (Nat.lt_irrefl 0)
  | cons e rest ih =>
    rw [List.forall_mem_cons] at counted
    rw [takeAll]
    cases first : take e.1 e.2 bounds with
    | ok mid => exact (ih counted.2).trans (affords_cons_iff counted.1 first).symm
    | error fault =>
      refine iff_of_false (by simp) fun affords => ?_
      -- the first bound of the model has room for all that is used, so also for this entry
      obtain ⟨b, found, fits⟩ := affords e.1 (by rw [Pool.amount_cons, if_pos rfl]; omega)
      rw [Pool.amount_cons, if_pos rfl] at fits
      obtain ⟨mid, taken⟩ := take_ok_iff.mpr ⟨b, found, Nat.le_of_add_right_le fits⟩
      rw [taken] at first
      cases first

theorem takeAll_eq_ok_iff (counted : ∀ e ∈ entries, e.2 ≠ 0) : takeAll entries bounds = .ok fewer ↔
    Affords bounds (Pool.amount entries) ∧ Drawn (Pool.amount entries) bounds fewer := by
  constructor
  · intro h
    exact ⟨(takeAll_ok_iff counted).mp ⟨fewer, h⟩, drawn_takeAll counted h⟩
  · rintro ⟨affords, drawn⟩
    obtain ⟨fewer', h⟩ := (takeAll_ok_iff counted).mpr affords
    rw [h, drawn.unique (drawn_takeAll counted h)]

/-- Entries that add up to the same leave the same. -/
theorem toOption_takeAll {entries' : List (Iri × ℕ)} (counted : ∀ e ∈ entries, e.2 ≠ 0)
    (counted' : ∀ e ∈ entries', e.2 ≠ 0) (same : Pool.amount entries = Pool.amount entries')
    (bounds : List Bound) :
    (takeAll entries bounds).toOption = (takeAll entries' bounds).toOption := by
  have iff : ∀ fewer, takeAll entries bounds = .ok fewer ↔ takeAll entries' bounds = .ok fewer := by
    intro fewer
    rw [takeAll_eq_ok_iff counted, takeAll_eq_ok_iff counted', same]
  cases left : takeAll entries bounds with
  | ok fewer => rw [(iff fewer).mp left]
  | error fault =>
    cases right : takeAll entries' bounds with
    | ok fewer =>
      rw [(iff fewer).mpr right] at left
      cases left
    | error fault' => rfl

theorem takeAll_append (entries entries' : List (Iri × ℕ)) (bounds : List Bound) :
    takeAll (entries ++ entries') bounds = takeAll entries bounds >>= takeAll entries' := by
  induction entries generalizing bounds with
  | nil => rfl
  | cons e rest ih =>
    rw [List.cons_append, takeAll, takeAll]
    cases take e.1 e.2 bounds with
    | ok mid => exact ih mid
    | error fault => rfl

end Bound

namespace Solution

open RobotTeam.Bound

theorem counted_consumed (s : Solution) : ∀ e ∈ s.consumed.entries, e.2 ≠ 0 :=
  fun e he => (Pool.noZeros_ofEntries _ e he).ne'

theorem amount_consumed (s : Solution) : Pool.amount s.consumed.entries = s.uses := by
  rw [← s.count_consumed]
  exact funext (Pool.amount_entries s.consumed)

theorem counted_both (s t : Solution) :
    ∀ e ∈ s.consumed.entries ++ t.consumed.entries, e.2 ≠ 0 :=
  List.forall_mem_append.mpr ⟨s.counted_consumed, t.counted_consumed⟩

theorem amount_both (s t : Solution) :
    Pool.amount (s.consumed.entries ++ t.consumed.entries) = s.uses + t.uses := by
  funext model
  rw [Pool.amount_append, s.amount_consumed, t.amount_consumed, Pi.add_apply]

theorem subtractFrom_bind (s t : Solution) (bounds : List Bound) :
    s.subtractFrom bounds >>= t.subtractFrom =
      takeAll (s.consumed.entries ++ t.consumed.entries) bounds :=
  (takeAll_append _ _ bounds).symm

theorem subtractFrom_ok_iff {s : Solution} {bounds : List Bound} :
    (∃ fewer, s.subtractFrom bounds = .ok fewer) ↔ Affords bounds s.uses := by
  rw [← s.amount_consumed]
  exact takeAll_ok_iff s.counted_consumed

/-- Subtracting one solution after the other, in either order, does what subtracting both at once
does. A solution can be subtracted exactly if the bounds afford what it uses, and then only the first
bounds of the models that are used change. -/
theorem subtractFrom_action (s t : Solution) (bounds : List Bound) :
    (s.subtractFrom bounds >>= t.subtractFrom).toOption =
      ((Solution.mk (s.assignments ++ t.assignments)).subtractFrom bounds).toOption ∧
    (s.subtractFrom bounds >>= t.subtractFrom).toOption =
      (t.subtractFrom bounds >>= s.subtractFrom).toOption ∧
    ((∃ fewer, s.subtractFrom bounds = .ok fewer) ↔ Affords bounds s.uses) ∧
    ∀ fewer, s.subtractFrom bounds = .ok fewer →
      Reduced s.uses bounds fewer ∧
      ((∀ b ∈ bounds, b.min ≤ b.max) → ∀ b ∈ fewer, b.min ≤ b.max) := by
  rw [subtractFrom_bind, subtractFrom_bind]
  refine ⟨?_, ?_, subtractFrom_ok_iff, fun fewer h => ?_⟩
  · refine toOption_takeAll (counted_both s t) (counted_consumed _) ?_ bounds
    rw [amount_both, amount_consumed, uses_append]
  · refine toOption_takeAll (counted_both s t) (counted_both t s) ?_ bounds
    rw [amount_both, amount_both, add_comm]
  · have drawn := drawn_subtractFrom h
    rw [s.count_consumed] at drawn
    exact ⟨drawn.reduced, drawn.ordered⟩

end Solution

end RobotTeam
