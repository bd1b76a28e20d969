import RobotTeam.Decimal.Layout
import RobotTeam.Redundancy.Team

/-!
The table of redundancies of single models for all services, computed with doubles.
-/

namespace RobotTeam.Redundancy

structure Defaults where
  /-- The probability that an instance survives when nothing is declared about its failure. -/
  survival : Float := 0.95
  failureProperty : Iri := Vocabulary.probabilityOfFailure
  deriving Repr, Inhabited

variable {ω : Type} [Ontology ω]

def Defaults.base (d : Defaults) (o : ω) (model : Iri) : Float :=
  match (Ontology.value? o model d.failureProperty).bind Literal.number? with
  | some failure => Survivability.clamp (1 - failure)
  | none => d.survival

def Defaults.scale (d : Defaults) (o : ω) : Scale Float := ⟨d.base o, Decimal.totalLE⟩

structure Entry (P : Type) where
  service : Iri
  model : Iri
  survival : P
  deriving Repr

/-- A pair is left out when the model cannot provide the service or the service requires nothing. -/
def isLeftOut : QueryError → Bool
  | .unmetMinimum _ => true
  | .invalidArgument _ => true
  | _ => false

section

variable {P : Type} [Mul P] [Div P] [Sub P] [LT P] [DecidableLT P] [OfNat P 0] [OfNat P 1]

def cell? (m : Scale P) (a : Organization ω) (service model : Iri) :
    Attempt (Option (Entry P)) := do
  let outcome ← ExceptT.lift (ofModel m a service model).run
  match outcome with
  | .ok survival => return some ⟨service, model, survival⟩
  | .error error => if isLeftOut error then return none else throw error

def table (m : Scale P) (a : Organization ω) : Attempt (List (Entry P)) := do
  let rows ← a.services.mapM fun service => a.pool.models.mapM (cell? m a service)
  return rows.flatten.filterMap id

end

def renderTable (entries : List (Entry Float)) (indent : Nat) : String :=
  let margin := "".pushn ' ' indent
  String.join (entries.map fun e =>
    s!"{margin}{e.service.localName} / {e.model.localName}: {Decimal.fixed 4 e.survival}\n")

end RobotTeam.Redundancy
