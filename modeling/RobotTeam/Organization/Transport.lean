import RobotTeam.Organization.Basic

/-!
How many instances of a model an agent can carry.
-/

namespace RobotTeam.Organization

variable {ω : Type} [Ontology ω]

/-- The declared capacity, cut off at zero and at the largest count; without a number it is zero. -/
def declaredCapacity (o : ω) (agent : Iri) : Nat :=
  match (Ontology.value? o agent Vocabulary.transportCapacity).bind Literal.number? with
  | some x => x.toUInt32.toNat
  | none => 0

/-- Lowers a capacity to a declared maximum. Restrictions of other kinds make no sense here. -/
def limitCapacity (capacity : Nat) (r : Restriction) : Except QueryError Nat :=
  match r.kind with
  | .max => .ok (Nat.min capacity r.cardinality)
  | other => .error (.typeMismatch (.notMaximum other))

def transportCapacity (a : Organization ω) (pool : Pool) (model : Iri) : Except QueryError Nat :=
  match pool.atomicModel? with
  | none => .error (.unsupported .compositeAgent)
  | some agent =>
    (Ontology.restrictions a.ontology agent Vocabulary.hasTransportCapacity (some model)).foldlM
      limitCapacity (declaredCapacity a.ontology agent)

end RobotTeam.Organization
