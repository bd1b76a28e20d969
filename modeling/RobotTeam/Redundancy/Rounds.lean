import RobotTeam.Query.Basic

/-!
Rounds of matching. The same requirements are served again and again from what the rounds before have
left over, until the matcher finds nothing more. Every round uses up at least one instance, so there
are never more rounds than instances.
-/

namespace RobotTeam.Redundancy

/-- What the counter of rounds shows and what they left. A fault ends the rounds and takes nothing. -/
structure Rounds where
  count : Nat
  remaining : List Bound
  fault : Option QueryError
  deriving DecidableEq, Repr

theorem total_lt_of_subtractFrom {s : Solution} {bounds fewer : List Bound}
    (uses : s.consumed.isEmpty = false) (h : s.subtractFrom bounds = .ok fewer) :
    Bound.total fewer < Bound.total bounds := by
  have := Solution.total_subtractFrom h
  have : 0 < s.consumed.instances := Pool.instances_pos (Pool.noZeros_ofEntries _) uses
  omega

/-- Goes on after `count` rounds with what remains. -/
def matchRounds (required : List Bound) (count : Nat) (remaining : List Bound) : Query Rounds :=
  .assign required remaining fun outcome =>
    match outcome with
    | none => .done ⟨count, remaining, none⟩
    | some s =>
      match _uses : s.consumed.isEmpty with
      | true => .done ⟨count, remaining, some (.invalidArgument .nothingConsumed)⟩
      | false =>
        match _fits : s.subtractFrom remaining with
        | .ok fewer => matchRounds required (Count.next count) fewer
        | .error error => .done ⟨count, remaining, some error⟩
termination_by Bound.total remaining
decreasing_by exact total_lt_of_subtractFrom _uses _fits

/-- The matcher is asked once, and either another round follows or the rounds are over. -/
theorem run_matchRounds_step {ω μ : Type} [Ontology ω] [Matcher μ ω] (o : ω) (s : Session μ)
    (required : List Bound) (count : Nat) (remaining : List Bound) :
    (matchRounds required count remaining).run o s =
      let answer := Matcher.solve s.matcher o required remaining
      let after : Session μ := { s with matcher := answer.2 }
      match answer.1 with
      | none => (⟨count, remaining, none⟩, after)
      | some sol =>
        if sol.consumed.isEmpty then
          (⟨count, remaining, some (.invalidArgument .nothingConsumed)⟩, after)
        else
          match sol.subtractFrom remaining with
          | .ok fewer => (matchRounds required (Count.next count) fewer).run o after
          | .error error => (⟨count, remaining, some error⟩, after) := by
  rw [matchRounds, Query.run]
  dsimp only
  rcases Matcher.solve s.matcher o required remaining with ⟨outcome, after⟩
  cases outcome with
  | none => rfl
  | some sol =>
    dsimp only
    split
    · next empty =>
      rw [if_pos empty]
      rfl
    · next uses =>
      rw [uses, if_neg Bool.false_ne_true]
      split
      · next fits => rw [fits]
      · next fails =>
        rw [fails]
        rfl

end RobotTeam.Redundancy
