import RobotTeam.Proofs.Redundancy.FullRedundancy
import RobotTeam.Proofs.Redundancy.Leftovers
import RobotTeam.Proofs.Redundancy.Outcome
import Mathlib.Algebra.Order.Field.Rat

/-! Minimums are checked on merged bounds, records are made from the restrictions themselves. An
assessment is refused exactly when all restrictions on some class leave it without a minimum; any
other restriction gets a record, also one that sets no minimum of its own. -/

namespace RobotTeam.Redundancy

/-- The assessment is refused for what is asked. -/
def Refused {α : Type} (result : Except QueryError α) : Prop :=
  ∃ reason, result = .error (.invalidArgument reason)

/-- No restriction on one of the classes sets a positive minimum. -/
def Unfounded (required : List Restriction) : Prop :=
  ∃ r ∈ required, ∀ t ∈ required, t.qualification = r.qualification → t.least = 0

variable {ω P : Type} [Ontology ω] {required available : List Restriction}

theorem Posed.exists_zero_iff {wanted onHand : List Bound}
    (h : Posed required available wanted onHand) : (∃ b ∈ wanted, b.min = 0) ↔ Unfounded required := by
  have merged := Bound.merged_of_merge h.wanted_eq
  constructor
  · rintro ⟨b, hb, hmin⟩
    obtain ⟨r, hr, named⟩ := merged.exists_restriction hb
    refine ⟨r, hr, ?_⟩
    rw [named, ← Bound.lowest_eq_zero_iff, ← merged.min_eq b hb]
    exact hmin
  · rintro ⟨r, hr, none⟩
    obtain ⟨b, hb, named⟩ := merged.exists_bound hr
    refine ⟨b, hb, ?_⟩
    rw [merged.min_eq b hb, Bound.lowest_eq_zero_iff, named]
    exact none

theorem Assessable.founded {wanted onHand : List Bound}
    (h : Assessable required available wanted onHand) : ¬Unfounded required := by
  rw [← h.toPosed.exists_zero_iff]
  rintro ⟨b, hb, zero⟩
  exact (h.positive b hb).ne' zero

theorem Outcome.refused_iff {α : Type} {o : ω} {result : Except QueryError α}
    (h : Outcome o required available result) (counts : ∀ r ∈ required ++ available, r.Counts)
    (limited : Limited available) : Refused result ↔ required = [] ∨ Unfounded required := by
  have granted : ∀ {wanted onHand : List Bound}, Assessable required available wanted onHand →
      ¬(required = [] ∨ Unfounded required) := fun ready => not_or.mpr ⟨ready.asked, ready.founded⟩
  cases h with
  | unasked h => exact iff_of_true ⟨_, rfl⟩ (Or.inl h)
  | mismatch asked bad reason =>
    obtain ⟨r, hr, bad⟩ := bad
    exact absurd (counts r hr) bad
  | noMinimum posed zero => exact iff_of_true ⟨_, rfl⟩ (Or.inr (posed.exists_zero_iff.mp zero))
  | unlimited posed positive hb free => exact absurd free (posed.limited limited _ hb)
  | unmet ready stuck =>
    refine iff_of_false ?_ (granted ready)
    rintro ⟨reason, e⟩
    cases e
  | overrun ready more =>
    refine iff_of_false ?_ (granted ready)
    rintro ⟨reason, e⟩
    cases e
  | met ready served result =>
    refine iff_of_false ?_ (granted ready)
    rintro ⟨reason, e⟩
    cases e

variable [Mul P] [Div P] [Sub P] [LT P] [DecidableLT P] [OfNat P 0] [OfNat P 1]

/-- Where there are records, no class is without a minimum, and the records are those of the
restrictions in some order. -/
theorem records_of_assess (m : Scale P) (o : ω) (s : Session Allocation)
    {records : List (Survivability P)}
    (h : (Query.run o (m.assess o required available) s).1 = .ok records) :
    ¬Unfounded required ∧ (records.map Survivability.subject).Perm
      (required.map fun r => (r.qualification, r.cardinality,
        Survivability.clamp (m.base r.qualification))) := by
  have outcome := assess_outcome m o s required available
  rw [h] at outcome
  cases outcome with
  | met ready served result =>
    obtain ⟨k, rest, -, -, hrun⟩ := ready.run_assess m o s
    rw [h] at hrun
    split at hrun
    · cases hrun
    · cases hrun
      have kept := handOut_subject (o := o) m.weaker (required.map (m.recordOf (Count.wrapped k))) rest
      rw [List.map_map] at kept
      exact ⟨ready.founded, kept⟩

/-- Restrictions and limited resources are refused exactly when nothing is required or a class is
left without a minimum. In a result, every restriction has a record for its own number, whether or
not that number is a minimum; only some restriction on its class sets one. -/
theorem survival_refused_iff (m : Scale P) (o : ω) (s : Session Allocation)
    (counts : ∀ r ∈ required ++ available, r.Counts) (limited : Limited available) :
    (Refused (Query.run o (m.survival o required available) s).1 ↔
      required = [] ∨ Unfounded required) ∧
    ∀ records, (Query.run o (m.assess o required available) s).1 = .ok records →
      (records.map fun r => (r.qualification, r.minimum)).Perm
        (required.map fun r => (r.qualification, r.cardinality)) ∧
      ∀ r ∈ required, ∃ t ∈ required, t.qualification = r.qualification ∧
        (t.kind = .min ∨ t.kind = .exact) ∧ 0 < t.cardinality := by
  constructor
  · rw [run_survival]
    exact ((assess_outcome m o s required available).map _).refused_iff counts limited
  · intro records h
    obtain ⟨founded, same⟩ := records_of_assess m o s h
    have named := same.map fun e => (e.1, e.2.1)
    rw [List.map_map, List.map_map] at named
    refine ⟨named, ?_⟩
    intro r hr
    by_contra none
    refine founded ⟨r, hr, ?_⟩
    intro t ht same
    by_contra least
    exact none ⟨t, ht, same, Restriction.least_pos_iff.mp (Nat.pos_of_ne_zero least)⟩

section Arms

def coin : Scale ℚ := ⟨fun _ => 1 / 2, fun p q => decide (p ≤ q)⟩

def atMost (model : Iri) (n : ℕ) : Restriction := .object ⟨"http://team#has"⟩ model n .max

def atLeast (model : Iri) (n : ℕ) : Restriction := .object ⟨"http://team#has"⟩ model n .min

/-- One arm is asked for, and five at most. -/
theorem arms_count : ∀ r ∈ [atMost arm 5, atLeast arm 1] ++ [atMost arm 1], r.Counts := by decide

theorem arms_limited : Limited [atMost arm 1] := by
  unfold Limited
  decide

theorem survival_refused_arms :
    (∀ r ∈ [atMost arm 5, atLeast arm 1] ++ [atMost arm 1], r.Counts) ∧ Limited [atMost arm 1] ∧
    ¬Refused (Query.run parts (coin.survival parts [atMost arm 5, atLeast arm 1] [atMost arm 1])
      matching).1 := by
  refine ⟨arms_count, arms_limited, ?_⟩
  rw [(survival_refused_iff coin parts matching arms_count arms_limited).1]
  unfold Unfounded
  decide

/-- The upper limit of five arms counts as a requirement of five. -/
theorem not_refused_without_minimum :
    (∀ r ∈ [atMost arm 5, atLeast arm 1] ++ [atMost arm 1], r.Counts) ∧ Limited [atMost arm 1] ∧
    (atMost arm 5).least = 0 ∧
    (Query.run parts (coin.assess parts [atMost arm 5, atLeast arm 1] [atMost arm 1]) matching).1 =
      .ok [⟨arm, 5, 1 / 2, 1⟩, ⟨arm, 1, 1 / 2, 1⟩] ∧
    (Query.run parts (coin.survival parts [atMost arm 5, atLeast arm 1] [atMost arm 1]) matching).1 =
      .ok (1 / 64) := by
  have ready : Assessable [atMost arm 5, atLeast arm 1] [atMost arm 1] [⟨arm, 1, 5⟩] [⟨arm, 0, 1⟩] := by
    refine ⟨⟨by decide, by decide, ?_, ?_⟩, by decide, by decide⟩
    · decide +kernel
    · decide +kernel
  have rounds : (Query.run parts (matchRounds [⟨arm, 1, 5⟩] 0 [⟨arm, 0, 1⟩]) matching).1 =
      ⟨1, [⟨arm, 0, 0⟩], none⟩ := by decide +kernel
  obtain ⟨k, rest, hrun, -, hassess⟩ := ready.run_assess coin parts matching
  rw [hrun, Rounds.mk.injEq] at rounds
  obtain ⟨one, rfl, -⟩ := rounds
  have sorted : [coin.recordOf 1 (atMost arm 5), coin.recordOf 1 (atLeast arm 1)].mergeSort coin.weaker =
      [⟨arm, 5, 1 / 2, 1⟩, ⟨arm, 1, 1 / 2, 1⟩] := by
    rw [List.mergeSort_of_pairwise (by decide +kernel)]
    decide +kernel
  have two : (Query.run parts (coin.assess parts [atMost arm 5, atLeast arm 1] [atMost arm 1])
      matching).1 = .ok [⟨arm, 5, 1 / 2, 1⟩, ⟨arm, 1, 1 / 2, 1⟩] := by
    rw [hassess, one, if_neg Nat.one_ne_zero, List.map_cons, List.map_cons, List.map_nil, handOut, sorted]
    rfl
  refine ⟨arms_count, arms_limited, rfl, two, ?_⟩
  rw [run_survival, two]
  decide +kernel

end Arms

end RobotTeam.Redundancy
