import RobotTeam.Redundancy.Rounds
import RobotTeam.Proofs.Query.Recorder
import RobotTeam.Proofs.Restriction.Subtraction
import Mathlib.Data.List.Chain

/-! The rounds of matching come to an end whatever the matcher answers. An answer is accepted only if it
uses some instance and no more than there are, so that the instances on hand run out. Nothing is assumed
of the matcher, which may answer in any way and differently each time. -/

namespace RobotTeam

namespace Redundancy

structure Accepted (available : List Bound) (s : Solution) (left : List Bound) : Prop where
  uses : 0 < s.consumed.instances
  drawn : Bound.Drawn s.consumed.count available left
  none_rises : List.Forall₂ (fun b l => l.model = b.model ∧ l.max ≤ b.max) available left
  total : Bound.total left + s.consumed.instances = Bound.total available

inductive Ending (available : List Bound) : Option Solution → Option QueryError → Prop where
  | unsolved : Ending available none none
  | nothing_used {s : Solution} (h : s.consumed.isEmpty = true) :
      Ending available (some s) (some (.invalidArgument .nothingConsumed))
  | too_much {s : Solution} {error : QueryError} (h : s.subtractFrom available = .error error) :
      Ending available (some s) (some error)

/-- The rounds that follow on so many rounds, with the consultations of the matcher on the way. -/
inductive Played (required : List Bound) : ℕ → List Bound → List Consultation → Rounds → Prop where
  | last {n : ℕ} {available : List Bound} {outcome : Option Solution} {fault : Option QueryError}
      (h : Ending available outcome fault) :
      Played required n available [⟨required, available, outcome⟩]
        ⟨Count.wrapped n, available, fault⟩
  | round {n : ℕ} {available left : List Bound} {s : Solution} {later : List Consultation}
      {rounds : Rounds} (h : Accepted available s left)
      (rest : Played required (n + 1) left later rounds) :
      Played required n available (⟨required, available, some s⟩ :: later) rounds

theorem accepted_of_subtractFrom {s : Solution} {available left : List Bound}
    (uses : s.consumed.isEmpty = false) (fits : s.subtractFrom available = .ok left) :
    Accepted available s left where
  uses := Pool.instances_pos (Pool.noZeros_ofEntries _) uses
  drawn := Bound.drawn_subtractFrom fits
  none_rises := (Bound.drawn_subtractFrom fits).none_rises
  total := Solution.total_subtractFrom fits

section Run

variable {ω μ : Type} [Ontology ω] [Matcher μ ω] (o : ω) (required available : List Bound)

theorem run_matchRounds_played (s : Session (Recorder μ)) (count : ℕ) :
    ∃ asked, Played required count available asked
        ((matchRounds required (Count.wrapped count) available).run o s).1 ∧
      ((matchRounds required (Count.wrapped count) available).run o s).2.consultations =
        s.consultations ++ asked := by
  generalize ht : Bound.total available = total
  induction total using Nat.strong_induction_on generalizing available count s with
  | h total ih =>
    have record : (Matcher.solve s.matcher o required available).2.consultations =
      s.consultations ++
        [⟨required, available, (Matcher.solve s.matcher o required available).1⟩] := rfl
    rw [run_matchRounds_step]
    generalize Matcher.solve s.matcher o required available = answer at record ⊢
    rcases answer with ⟨outcome, recorder⟩
    cases outcome with
    | none => exact ⟨_, .last .unsolved, record⟩
    | some sol =>
      dsimp only
      split
      · next empty => exact ⟨_, .last (.nothing_used empty), record⟩
      · next uses =>
        split
        · next left fits =>
          have accepted := accepted_of_subtractFrom (Bool.not_eq_true _ |>.mp uses) fits
          have less : Bound.total left < total := by
            have uses := accepted.uses
            have total := accepted.total
            omega
          rcases ih _ less left { s with matcher := recorder } (count + 1) rfl with ⟨asked, rest, same⟩
          rw [Count.next_wrapped]
          refine ⟨_, .round accepted rest, ?_⟩
          have start : Session.consultations { s with matcher := recorder } = _ := record
          rw [same, start, List.append_assoc, List.singleton_append]
        · next error fails => exact ⟨_, .last (.too_much fails), record⟩

end Run

namespace Played

variable {required available : List Bound} {n : ℕ} {asked : List Consultation} {rounds : Rounds}

/-- Every consultation but the last one is counted. -/
theorem count (h : Played required n available asked rounds) :
    ∃ k, asked.length + n = k + 1 ∧ rounds.count = Count.wrapped k := by
  induction h with
  | @last n => exact ⟨n, Nat.add_comm _ _, rfl⟩
  | round accepted rest ih =>
    rcases ih with ⟨k, total, shown⟩
    refine ⟨k, ?_, shown⟩
    rw [List.length_cons]
    omega

/-- Each round takes at least one instance. -/
theorem length_le (h : Played required n available asked rounds) :
    asked.length + Bound.total rounds.remaining ≤ Bound.total available + 1 := by
  induction h with
  | last => exact (Nat.add_comm _ _).le
  | round accepted rest ih =>
    have uses := accepted.uses
    have total := accepted.total
    rw [List.length_cons]
    omega

theorem head (h : Played required n available asked rounds) :
    ∃ outcome later, asked = ⟨required, available, outcome⟩ :: later := by
  cases h with
  | last => exact ⟨_, _, rfl⟩
  | round => exact ⟨_, _, rfl⟩

theorem chain (h : Played required n available asked rounds) : asked.IsChain fun c d =>
    d.required = c.required ∧ ∃ s, c.outcome = some s ∧ Accepted c.available s d.available := by
  induction h with
  | last => exact List.isChain_singleton _
  | @round n available left s later rounds accepted rest ih =>
    rcases rest.head with ⟨outcome, more, rfl⟩
    exact List.isChain_cons_cons.mpr ⟨⟨rfl, s, rfl, accepted⟩, ih⟩

theorem ending (h : Played required n available asked rounds) :
    ∃ c, asked.getLast? = some c ∧ c.available = rounds.remaining ∧
      Ending rounds.remaining c.outcome rounds.fault := by
  induction h with
  | last ends => exact ⟨_, rfl, rfl, ends⟩
  | round accepted rest ih =>
    rcases rest.head with ⟨outcome, more, rfl⟩
    rwa [List.getLast?_cons_cons]

end Played

/-- The matcher is asked at most once more than there are instances on hand, whatever it answers. Each
round takes what its answer uses from the bounds, none of which rises or has less than is taken, and an
answer that is refused takes nothing. -/
theorem matchRounds_consults {ω μ : Type} [Ontology ω] [Matcher μ ω] (o : ω) (s : Session μ)
    (required available : List Bound) :
    let rounds := ((matchRounds required 0 available).run o s).1
    let asked := ((matchRounds required 0 available).run o s.recorded).2.consultations
    asked.length ≤ Bound.total available + 1 ∧
      (∃ k, asked.length = k + 1 ∧ rounds.count = Count.wrapped k) ∧
      asked.head?.map Consultation.required = some required ∧
      asked.head?.map Consultation.available = some available ∧
      (asked.IsChain fun c d => d.required = c.required ∧
        ∃ sol, c.outcome = some sol ∧ Accepted c.available sol d.available) ∧
      ∃ c, asked.getLast? = some c ∧ c.available = rounds.remaining ∧
        Ending rounds.remaining c.outcome rounds.fault := by
  intro rounds asked
  have plain := Query.run_plain o (matchRounds required 0 available) s.recorded
  rcases run_matchRounds_played o required available s.recorded 0 with ⟨consulted, played, same⟩
  have recorded : asked = consulted := same
  rw [Session.plain_recorded] at plain
  have answered : ((matchRounds required 0 available).run o s.recorded).1 = rounds :=
    congrArg Prod.fst plain.symm
  rw [Count.wrapped_zero, answered] at played
  rw [recorded]
  rcases played.head with ⟨outcome, later, first⟩
  refine ⟨?_, played.count, ?_, ?_, played.chain, played.ending⟩
  · exact (Nat.le_add_right _ _).trans played.length_le
  · rw [first]
    rfl
  · rw [first]
    rfl

end Redundancy

end RobotTeam
