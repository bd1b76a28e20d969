import RobotTeam.Redundancy.Leftovers
import RobotTeam.Redundancy.Rounds

/-!
Redundancy of a team: the probability that it keeps meeting a set of requirements while its parts fail
independently. Each requirement starts with as many stand-ins as there are rounds of matching, and gets
further ones from the leftovers.
-/

namespace RobotTeam.Redundancy

/-- What the assessment has to know of its numbers: the probability that one instance of a model
survives, and how probabilities are ranked. -/
structure Scale (P : Type) where
  base : Iri → P
  le : P → P → Bool

section

variable {ω P : Type} [Ontology ω] [Mul P] [Div P] [Sub P] [LT P] [DecidableLT P] [OfNat P 0] [OfNat P 1]

/-- Ranks records by survival, and records of equal survival by name. -/
def Scale.weaker (m : Scale P) (r s : Survivability P) : Bool :=
  m.le r.survival s.survival &&
    (!m.le s.survival r.survival || (compare r.qualification s.qualification).isLE)

def Scale.records (m : Scale P) (required : List Restriction) (count : Nat) :
    Except QueryError (List (Survivability P)) :=
  required.mapM fun r => do
    let qualification ← r.expectClass
    return .create qualification r.cardinality (m.base qualification) count

def bounds (required available : List Restriction) : Except QueryError (List Bound × List Bound) := do
  if required.isEmpty then throw (.invalidArgument .noRequirements)
  let wanted ← Bound.merge required
  let onHand ← Bound.merge available
  if !Bound.allRequired wanted then throw (.invalidArgument .noMinimum)
  if let some b := onHand.find? Bound.isUnbounded then
    throw (.invalidArgument (.unboundedSupply b.model))
  return (wanted, onHand)

def Rounds.outcome (r : Rounds) (required : List Bound) : Except QueryError Nat :=
  match r.fault with
  | some error => .error error
  | none =>
    if r.count = 0 then .error (.unmetMinimum (.unmetRequirements required.length))
    else .ok r.count

/-- The records of all requirements after the leftovers are handed out, weakest first. -/
def Scale.assess (m : Scale P) (o : ω) (required available : List Restriction) :
    Attempt (List (Survivability P)) := do
  let (wanted, onHand) ← bounds required available
  let rounds ← ExceptT.lift (matchRounds wanted 0 onHand)
  let count ← rounds.outcome wanted
  let records ← m.records required count
  return handOut o m.weaker records rounds.remaining

/-- All requirements have to survive. -/
def Scale.survival (m : Scale P) (o : ω) (required available : List Restriction) : Attempt P := do
  let records ← m.assess o required available
  return Survivability.serial (records.map Survivability.survival)

end

end RobotTeam.Redundancy
