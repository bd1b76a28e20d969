import RobotTeam.Ontology
import RobotTeam.Restriction.Bound
import RobotTeam.Survivability

/-!
Handing out leftovers. What the rounds of matching leave over goes to the weakest records, one instance
of every bound at a time; a bound that no record can use, or that is used up, drops out.
-/

namespace RobotTeam.Redundancy

variable {ω P : Type} [Ontology ω]

/-- A model serves what it is or lies below. -/
def serves (o : ω) (model qualification : Iri) : Bool :=
  qualification == model || Ontology.isSubclass o model qualification

def strengthen? (o : ω) (model : Iri) : List (Survivability P) → Option (List (Survivability P))
  | [] => none
  | r :: rest =>
    if serves o model r.qualification then some (r.increment :: rest)
    else (strengthen? o model rest).map (r :: ·)

/-- One instance of each bound, in the order of the bounds; returns what stays of the bounds. -/
def handOutOnce (o : ω) (records : List (Survivability P)) :
    List Bound → List (Survivability P) × List Bound
  | [] => (records, [])
  | b :: rest =>
    match strengthen? o b.model records with
    | none => handOutOnce o records rest
    | some stronger =>
      if b.max = 0 then handOutOnce o records rest
      else
        let (final, kept) := handOutOnce o stronger rest
        (final, b.lower 1 :: kept)

theorem total_handOutOnce (o : ω) (records : List (Survivability P)) (bounds : List Bound) :
    Bound.total (handOutOnce o records bounds).2 + (handOutOnce o records bounds).2.length
      ≤ Bound.total bounds := by
  induction bounds generalizing records with
  | nil => simp [handOutOnce]
  | cons b rest ih =>
    simp only [handOutOnce]
    split
    · exact Nat.le_trans (ih records) (Nat.le_add_left _ _)
    · next stronger _ =>
      split
      · exact Nat.le_trans (ih records) (Nat.le_add_left _ _)
      · have := ih stronger
        simp only [Bound.total, Bound.lower, List.map_cons, Count.sum_cons, List.length_cons] at this ⊢
        omega

/-- Hands out everything that can be used. The records are put in order, weaker ones first, before
each pass and end up in the order of the last one. -/
def handOut (o : ω) (weaker : Survivability P → Survivability P → Bool)
    (records : List (Survivability P)) (bounds : List Bound) : List (Survivability P) :=
  match _pass : handOutOnce o (records.mergeSort weaker) bounds with
  | (final, []) => final
  | (final, b :: kept) => handOut o weaker final (b :: kept)
termination_by Bound.total bounds
decreasing_by
  have := total_handOutOnce o (records.mergeSort weaker) bounds
  rw [_pass] at this
  simp only [List.length_cons] at this
  omega

end RobotTeam.Redundancy
