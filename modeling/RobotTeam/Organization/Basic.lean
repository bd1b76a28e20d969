import RobotTeam.Mapping
import RobotTeam.Pool.SubPools
import RobotTeam.Query.Basic
import RobotTeam.Text.Quoted
import RobotTeam.Vocabulary

/-!
The organization model of a team: an ontology, a pool of models, and the functionality mapping of all
combinations that the pool yields. Building it asks the matcher about every combination.
-/

namespace RobotTeam

structure Settings where
  /-- Along this property services require resources and models provide them. -/
  property : Iri := Vocabulary.has
  serviceRoot : Iri := Vocabulary.service
  /-- No pool that yields more combinations is accepted; nothing means no limit. -/
  maxCombinations : Option Nat := some 100000
  deriving DecidableEq, Repr, Inhabited

structure Organization (ω : Type) where
  ontology : ω
  settings : Settings
  mapping : Mapping

namespace Organization

variable {ω : Type}

def pool (a : Organization ω) : Pool := a.mapping.pool

def checkSize (settings : Settings) (pool : Pool) : Except QueryError Unit :=
  match settings.maxCombinations with
  | none => .ok ()
  | some limit =>
    let total := SubPools.total? pool
    if total.any (· ≤ limit) then .ok ()
    else .error (.invalidArgument (.tooManyCombinations total limit))

section

variable [Ontology ω]

def servicesOf (o : ω) (settings : Settings) : List Iri :=
  Ontology.subclasses o settings.serviceRoot false

def services (a : Organization ω) : List Iri := servicesOf a.ontology a.settings

def build {μ : Type} [Matcher μ ω] (o : ω) (matcher : μ) (pool : Pool) (settings : Settings) :
    Except QueryError (Organization ω) := do
  checkSize settings pool
  let services := servicesOf o settings
  let mapping ← pool.subCombinations.foldlM
    (fun (m : Mapping) c => m.insert c (Matcher.supported matcher o c services))
    (Mapping.empty pool)
  return ⟨o, settings, mapping⟩

end

def required (a : Organization ω) (service : Iri) : Query (List Restriction) :=
  Query.totalOf ⟨Pool.single service 1, a.settings.property, .min, false⟩

def available (a : Organization ω) (pool : Pool) : Query (List Restriction) :=
  Query.totalOf ⟨pool, a.settings.property, .max, true⟩

def diagnosticIri (i : Iri) : String := s!"ModelIri({Text.quoted i.text})"

def diagnostic (a : Organization ω) (cache : Cache) : String :=
  let limit := (a.settings.maxCombinations.map fun n => s!"Some({n})").getD "None"
  let settings := "AskConfig \x7b property: " ++ diagnosticIri a.settings.property
    ++ ", service_root: " ++ diagnosticIri a.settings.serviceRoot
    ++ ", max_combinations: " ++ limit ++ " \x7d"
  let counts := a.pool.entries.map fun e => s!"{diagnosticIri e.1}: {e.2}"
  let pool := "ResourcePool \x7b counts: \x7b" ++ ", ".intercalate counts ++ "\x7d \x7d"
  "OrganizationModelAsk \x7b config: " ++ settings ++ ", pool: " ++ pool
    ++ s!", combinations: {a.mapping.size}, cached_queries: {cache.size} " ++ "\x7d"

end Organization

end RobotTeam
