import RobotTeam.Proofs.Query.Answer
import RobotTeam.Proofs.Redundancy.Rounds
import RobotTeam.Proofs.Restriction.Merge
import RobotTeam.Redundancy.Basic

/-! What becomes of an assessment. The checks are made in a fixed order, and once all of them are
passed the rounds of matching cannot fail: there is a result exactly when the requirements can be
served once. Only more rounds than a counter can show may hide that. -/

namespace RobotTeam

theorem Problem.Runs.eq_zero_iff {m n k : ℕ} {p : Problem m n} (h : p.Runs k) :
    k = 0 ↔ ¬p.Solvable := by
  cases h with
  | stop stuck => simp [stuck]
  | round hx rest => simp [show p.Solvable from ⟨_, hx.1⟩]

namespace Redundancy

open Problem

structure Posed (required available : List Restriction) (wanted onHand : List Bound) : Prop where
  asked : required ≠ []
  counts : ∀ r ∈ required ++ available, r.Counts
  wanted_eq : Bound.merge required = .ok wanted
  onHand_eq : Bound.merge available = .ok onHand

structure Assessable (required available : List Restriction) (wanted onHand : List Bound) : Prop
    extends Posed required available wanted onHand where
  positive : ∀ b ∈ wanted, 0 < b.min
  limited : ∀ b ∈ onHand, b.max ≠ Bound.unbounded

/-- Some restriction limits each class that is on hand. -/
def Limited (available : List Restriction) : Prop :=
  ∀ r ∈ available, Bound.highest available r.qualification < Bound.unbounded

section Bounds

variable {required available : List Restriction} {wanted onHand : List Bound}

theorem bounds_nil (available : List Restriction) :
    bounds [] available = .error (.invalidArgument .noRequirements) := rfl

theorem bounds_mismatch (asked : required ≠ []) (bad : ∃ r ∈ required ++ available, ¬r.Counts) :
    ∃ reason, bounds required available = .error (.typeMismatch reason) := by
  have some : required.isEmpty = false := by simpa using asked
  by_cases first : ∀ r ∈ required, r.Counts
  · obtain ⟨wanted, hw⟩ := Bound.merge_ok_iff.mpr first
    obtain ⟨r, hr, hbad⟩ := bad
    have second : ∃ r ∈ available, ¬r.Counts := by
      rcases List.mem_append.mp hr with hr | hr
      · exact absurd (first r hr) hbad
      · exact ⟨r, hr, hbad⟩
    obtain ⟨reason, he⟩ := Bound.merge_error second
    exact ⟨reason, by simp [bounds, some, hw, he, bind, Except.bind]⟩
  · push Not at first
    obtain ⟨reason, he⟩ := Bound.merge_error first
    exact ⟨reason, by simp [bounds, some, he, bind, Except.bind]⟩

theorem exists_posed (asked : required ≠ []) (counts : ∀ r ∈ required ++ available, r.Counts) :
    ∃ wanted onHand, Posed required available wanted onHand := by
  obtain ⟨wanted, hw⟩ :=
    Bound.merge_ok_iff.mpr fun r hr => counts r (List.mem_append_left available hr)
  obtain ⟨onHand, ha⟩ :=
    Bound.merge_ok_iff.mpr fun r hr => counts r (List.mem_append_right required hr)
  exact ⟨wanted, onHand, asked, counts, hw, ha⟩

namespace Posed

variable (h : Posed required available wanted onHand)

include h

theorem wanted_ne_nil : wanted ≠ [] := by
  obtain ⟨r, hr⟩ := List.exists_mem_of_ne_nil _ h.asked
  obtain ⟨b, hb, -⟩ := (Bound.merged_of_merge h.wanted_eq).exists_bound hr
  exact List.ne_nil_of_mem hb

/-- Once the bounds are made, they are checked for minimums and then for limits. -/
theorem bounds_eq : bounds required available =
    if !Bound.allRequired wanted then .error (.invalidArgument .noMinimum)
    else match onHand.find? Bound.isUnbounded with
      | some b => .error (.invalidArgument (.unboundedSupply b.model))
      | none => .ok (wanted, onHand) := by
  have some : required.isEmpty = false := by simpa using h.asked
  simp only [bounds, some, h.wanted_eq, h.onHand_eq, bind, Except.bind]
  cases Bound.allRequired wanted with
  | false => rfl
  | true => cases onHand.find? Bound.isUnbounded <;> rfl

theorem allRequired_iff : Bound.allRequired wanted = true ↔ ∀ b ∈ wanted, 0 < b.min := by
  simp [Bound.allRequired, h.wanted_ne_nil]

theorem bounds_noMinimum (zero : ∃ b ∈ wanted, b.min = 0) :
    bounds required available = .error (.invalidArgument .noMinimum) := by
  have fails : ¬Bound.allRequired wanted = true := by
    rw [h.allRequired_iff]
    push Not
    simpa using zero
  rw [h.bounds_eq, if_pos (by simpa using fails)]

theorem bounds_unbounded (positive : ∀ b ∈ wanted, 0 < b.min)
    (free : ∃ b ∈ onHand, b.max = Bound.unbounded) : ∃ b ∈ onHand, b.max = Bound.unbounded ∧
      bounds required available = .error (.invalidArgument (.unboundedSupply b.model)) := by
  rw [h.bounds_eq, if_neg (by simpa using h.allRequired_iff.mpr positive)]
  cases hf : onHand.find? Bound.isUnbounded with
  | none =>
    obtain ⟨b, hb, e⟩ := free
    have limited := List.find?_eq_none.mp hf b hb
    simp [Bound.isUnbounded, e] at limited
  | some b =>
    have found := List.find?_some hf
    exact ⟨b, List.mem_of_find?_eq_some hf, by simpa [Bound.isUnbounded] using found, rfl⟩

theorem limited (bounded : Limited available) : ∀ b ∈ onHand, b.max ≠ Bound.unbounded := by
  have merged := Bound.merged_of_merge h.onHand_eq
  intro b hb
  obtain ⟨r, hr, named⟩ := merged.exists_restriction hb
  rw [merged.max_eq b hb, ← named]
  exact (bounded r hr).ne

end Posed

theorem Assessable.bounds_eq (h : Assessable required available wanted onHand) :
    bounds required available = .ok (wanted, onHand) := by
  have limited : onHand.find? Bound.isUnbounded = none := by
    refine List.find?_eq_none.mpr ?_
    intro b hb
    simpa [Bound.isUnbounded] using h.limited b hb
  rw [h.toPosed.bounds_eq, if_neg (by simpa using h.allRequired_iff.mpr h.positive), limited]

end Bounds

variable {ω P : Type} [Ontology ω]

/-- What was taken serves the requirements `k` times, and what is left does not serve them again. -/
structure Exhausted (o : ω) (wanted onHand : List Bound) (k : ℕ) (rest : List Bound) : Prop where
  zero_iff : k = 0 ↔ ¬(ofBounds o wanted.get onHand.get).Solvable
  taken : ∃ (x : Fin wanted.length → Fin onHand.length → ℕ) (left : Fin onHand.length → Bound),
    rest = List.ofFn left ∧ ((ofBounds o wanted.get onHand.get).times k).Solves x ∧
    ¬(ofBounds o wanted.get left).Solvable ∧
    ∀ j, (left j).model = (onHand.get j).model ∧ (left j).max = (onHand.get j).max - ∑ i, x i j

theorem exists_exhausted {wanted onHand : List Bound} (asked : wanted ≠ [])
    (positive : ∀ b ∈ wanted, 0 < b.min) (distinct : (onHand.map Bound.model).Nodup) (o : ω)
    (s : Session Allocation) : ∃ k rest,
      (matchRounds wanted 0 onHand).run o s = (⟨Count.wrapped k, rest, none⟩, s) ∧
      Exhausted o wanted onHand k rest := by
  have asks := exists_need_pos asked positive
  obtain ⟨k, x, left, runs, hx, stuck, hleft, hrun⟩ :=
    run_matchRounds_spent o wanted.get asks s onHand.get (injective_model distinct)
  rw [List.ofFn_get, List.ofFn_get] at hrun
  exact ⟨k, List.ofFn left, hrun, runs.eq_zero_iff, x, left, rfl, hx, stuck, hleft⟩

theorem Exhausted.solvable {wanted onHand rest : List Bound} {k : ℕ} {o : ω}
    (h : Exhausted o wanted onHand k rest) (counted : Count.wrapped k ≠ 0) :
    (ofBounds o wanted.get onHand.get).Solvable := by
  by_contra stuck
  rw [h.zero_iff.mpr stuck] at counted
  exact counted Count.wrapped_zero

theorem Exhausted.le_limit {wanted onHand rest : List Bound} {k : ℕ} {o : ω}
    (h : Exhausted o wanted onHand k rest)
    (few : ¬(ofBounds o wanted.get onHand.get).Overruns) : k ≤ Count.limit := by
  obtain ⟨x, left, -, hx, -⟩ := h.taken
  by_contra hlt
  exact few (Solvable.times_le ⟨x, hx⟩ (not_le.mp hlt))

/-- What is available serves the requirements more often than a counter can show. -/
def Overrun (o : ω) (required available : List Restriction) : Prop :=
  ∃ wanted onHand, Bound.merge required = .ok wanted ∧ Bound.merge available = .ok onHand ∧
    (ofBounds o wanted.get onHand.get).Overruns

theorem Posed.overrun_iff {required available : List Restriction} {wanted onHand : List Bound}
    (h : Posed required available wanted onHand) (o : ω) :
    Overrun o required available ↔ (ofBounds o wanted.get onHand.get).Overruns := by
  constructor
  · rintro ⟨wanted', onHand', hw, ha, more⟩
    obtain rfl : wanted = wanted' := Except.ok.inj (h.wanted_eq.symm.trans hw)
    obtain rfl : onHand = onHand' := Except.ok.inj (h.onHand_eq.symm.trans ha)
    exact more
  · exact fun more => ⟨wanted, onHand, h.wanted_eq, h.onHand_eq, more⟩

variable [LT P] [DecidableLT P] [OfNat P 0] [OfNat P 1]

def Scale.recordOf (m : Scale P) (count : ℕ) (r : Restriction) : Survivability P :=
  .create r.qualification r.cardinality (m.base r.qualification) count

theorem Scale.records_of_counts (m : Scale P) (count : ℕ) {required : List Restriction}
    (h : ∀ r ∈ required, r.Counts) :
    m.records required count = .ok (required.map (m.recordOf count)) := by
  unfold Scale.records
  induction required with
  | nil => rfl
  | cons r rest ih =>
    rw [List.mapM_cons, (h r List.mem_cons_self).expectClass,
      ih fun t ht => h t (List.mem_cons_of_mem r ht)]
    rfl

variable [Mul P] [Div P] [Sub P]

section Run

variable {μ : Type} [Matcher μ ω] (m : Scale P) (o : ω) (s : Session μ)
  {required available : List Restriction}

theorem run_assess_error {e : QueryError} (h : bounds required available = .error e) :
    Query.run o (m.assess o required available) s = (.error e, s) := by
  rw [Scale.assess, Attempt.run_bind, Attempt.run_ofExcept, h]

theorem run_assess_ok {wanted onHand : List Bound} {rounds : Rounds} {s' : Session μ}
    (h : bounds required available = .ok (wanted, onHand))
    (hr : (matchRounds wanted 0 onHand).run o s = (rounds, s')) :
    Query.run o (m.assess o required available) s = (do
      let count ← rounds.outcome wanted
      let records ← m.records required count
      return handOut o m.weaker records rounds.remaining, s') := by
  rw [Scale.assess, Attempt.run_bind, Attempt.run_ofExcept, h]
  simp only [Attempt.run_bind, Attempt.run_lift, Attempt.run_ofExcept, hr]
  cases rounds.outcome wanted with
  | error e => rfl
  | ok count =>
    simp only [bind, Except.bind]
    cases m.records required count with
    | error e => rfl
    | ok records => rfl

theorem run_survival : (Query.run o (m.survival o required available) s).1 =
    ((Query.run o (m.assess o required available) s).1).map fun records =>
      Survivability.serial (records.map Survivability.survival) := by
  rw [Scale.survival, Attempt.run_bind]
  cases (Query.run o (m.assess o required available) s).1 with
  | error e => rfl
  | ok records => rfl

end Run

/-- Once the bounds can be assessed, the requirements are refused if no round is counted, and else get
a record each, to which the leftovers of the rounds are handed out. -/
theorem Assessable.run_assess {required available : List Restriction} {wanted onHand : List Bound}
    (h : Assessable required available wanted onHand) (m : Scale P) (o : ω)
    (s : Session Allocation) : ∃ k rest,
      (matchRounds wanted 0 onHand).run o s = (⟨Count.wrapped k, rest, none⟩, s) ∧
      Exhausted o wanted onHand k rest ∧
      (Query.run o (m.assess o required available) s).1 =
        if Count.wrapped k = 0 then .error (.unmetMinimum (.unmetRequirements wanted.length))
        else .ok (handOut o m.weaker (required.map (m.recordOf (Count.wrapped k))) rest) := by
  obtain ⟨k, rest, hrun, hk⟩ :=
    exists_exhausted h.wanted_ne_nil h.positive (Bound.merged_of_merge h.onHand_eq).nodup o s
  refine ⟨k, rest, hrun, hk, ?_⟩
  have counts : ∀ r ∈ required, r.Counts := fun r hr => h.counts r (List.mem_append_left _ hr)
  rw [run_assess_ok m o s h.bounds_eq hrun, Rounds.outcome]
  by_cases zero : Count.wrapped k = 0
  · rw [if_pos zero, if_pos zero]
    rfl
  · rw [if_neg zero, if_neg zero]
    show (m.records required (Count.wrapped k)).bind _ = _
    rw [m.records_of_counts _ counts]
    rfl

/-- What an assessment comes to: one case for each check, in the order in which they are made, and one
for requirements that can be served more often than a counter can show. -/
inductive Outcome {α : Type} (o : ω) (required available : List Restriction) :
    Except QueryError α → Prop where
  | unasked (h : required = []) :
    Outcome o required available (.error (.invalidArgument .noRequirements))
  | mismatch (asked : required ≠ []) (bad : ∃ r ∈ required ++ available, ¬r.Counts)
    (reason : Reason) : Outcome o required available (.error (.typeMismatch reason))
  | noMinimum {wanted onHand : List Bound} (h : Posed required available wanted onHand)
    (zero : ∃ b ∈ wanted, b.min = 0) :
    Outcome o required available (.error (.invalidArgument .noMinimum))
  | unlimited {wanted onHand : List Bound} (h : Posed required available wanted onHand)
    (positive : ∀ b ∈ wanted, 0 < b.min) {b : Bound} (hb : b ∈ onHand)
    (free : b.max = Bound.unbounded) :
    Outcome o required available (.error (.invalidArgument (.unboundedSupply b.model)))
  | unmet {wanted onHand : List Bound} (h : Assessable required available wanted onHand)
    (stuck : ¬(ofBounds o wanted.get onHand.get).Solvable) :
    Outcome o required available (.error (.unmetMinimum (.unmetRequirements wanted.length)))
  | overrun {wanted onHand : List Bound} (h : Assessable required available wanted onHand)
    (more : Overrun o required available) :
    Outcome o required available (.error (.unmetMinimum (.unmetRequirements wanted.length)))
  | met {wanted onHand : List Bound} (h : Assessable required available wanted onHand)
    (served : (ofBounds o wanted.get onHand.get).Solvable) (result : α) :
    Outcome o required available (.ok result)

variable {required available : List Restriction}

theorem assess_outcome (m : Scale P) (o : ω) (s : Session Allocation)
    (required available : List Restriction) :
    Outcome o required available (Query.run o (m.assess o required available) s).1 := by
  by_cases asked : required = []
  · subst asked
    rw [run_assess_error m o s (bounds_nil available)]
    exact .unasked rfl
  by_cases counts : ∀ r ∈ required ++ available, r.Counts
  · obtain ⟨wanted, onHand, posed⟩ := exists_posed asked counts
    by_cases positive : ∀ b ∈ wanted, 0 < b.min
    · by_cases limited : ∀ b ∈ onHand, b.max ≠ Bound.unbounded
      · have ready : Assessable required available wanted onHand := ⟨posed, positive, limited⟩
        obtain ⟨k, rest, -, spent, hrun⟩ := ready.run_assess m o s
        rw [hrun]
        by_cases zero : Count.wrapped k = 0
        · rw [if_pos zero]
          by_cases more : Overrun o required available
          · exact .overrun ready more
          · rw [posed.overrun_iff o] at more
            rw [Count.wrapped_of_le (spent.le_limit more)] at zero
            exact .unmet ready (spent.zero_iff.mp zero)
        · rw [if_neg zero]
          exact .met ready (spent.solvable zero) _
      · push Not at limited
        obtain ⟨b, hb, free, he⟩ := posed.bounds_unbounded positive limited
        rw [run_assess_error m o s he]
        exact .unlimited posed positive hb free
    · push Not at positive
      have zero : ∃ b ∈ wanted, b.min = 0 := by simpa using positive
      rw [run_assess_error m o s (posed.bounds_noMinimum zero)]
      exact .noMinimum posed zero
  · push Not at counts
    obtain ⟨reason, he⟩ := bounds_mismatch asked counts
    rw [run_assess_error m o s he]
    exact .mismatch asked counts reason

theorem Outcome.map {α β : Type} {o : ω} {result : Except QueryError α}
    (h : Outcome o required available result) (f : α → β) :
    Outcome o required available (result.map f) := by
  cases h with
  | unasked h => exact .unasked h
  | mismatch asked bad reason => exact .mismatch asked bad reason
  | noMinimum h zero => exact .noMinimum h zero
  | unlimited h positive hb free => exact .unlimited h positive hb free
  | unmet h stuck => exact .unmet h stuck
  | overrun h more => exact .overrun h more
  | met h served result => exact .met h served (f result)

/-- The metric comes to what the checks say, and no round of matching ever takes too much or nothing
at all. -/
theorem survival_outcome (m : Scale P) (o : ω) (s : Session Allocation)
    (required available : List Restriction) :
    Outcome o required available (Query.run o (m.survival o required available) s).1 ∧
      (∀ model n held, (Query.run o (m.survival o required available) s).1 ≠
        .error (.boundExceeded model n held)) ∧
      (Query.run o (m.survival o required available) s).1 ≠
        .error (.invalidArgument .nothingConsumed) := by
  have outcome : Outcome o required available
      (Query.run o (m.survival o required available) s).1 := by
    rw [run_survival]
    exact (assess_outcome m o s required available).map _
  refine ⟨outcome, ?_, ?_⟩
  · intro model n held e
    rw [e] at outcome
    cases outcome
  · intro e
    rw [e] at outcome
    cases outcome

end Redundancy

end RobotTeam
