import RobotTeam.Decimal.Layout
import RobotTeam.Organization.Basic
import RobotTeam.Redundancy.Table

/-!
Configurations as users write them: every value may be left out, names may be short, and zero stands
for no limit. Resolving a configuration gives the settings that queries work with.
-/

namespace RobotTeam

structure AskSection where
  property : Option String := none
  serviceRoot : Option String := none
  maxCombinations : Option Nat := none
  deriving DecidableEq, Repr, Inhabited

structure MetricSection where
  survival : Option Float := none
  failureProperty : Option String := none
  deriving Repr, Inhabited

structure Configuration where
  ask : AskSection := {}
  metrics : MetricSection := {}
  deriving Repr, Inhabited

inductive ConfigurationFault where
  | probabilityOutOfRange (p : Float)
  | emptyName (field : String)
  deriving Repr

def ConfigurationFault.message : ConfigurationFault → String
  | .probabilityOutOfRange p =>
    s!"metrics.default_probability_of_survival must be within [0, 1], got {Decimal.plain p}"
  | .emptyName field => s!"{field} must not be empty"

namespace Configuration

def name (field : String) (missing : Iri) : Option String → Except ConfigurationFault Iri
  | none => .ok missing
  | some s =>
    match Vocabulary.ofName? s with
    | some i => .ok i
    | none => .error (.emptyName field)

def limit : Option Nat → Option Nat
  | none => ({} : Settings).maxCombinations
  | some n => if n = 0 then none else some n

def probability : Option Float → Except ConfigurationFault Float
  | none => .ok ({} : Redundancy.Defaults).survival
  | some p => if 0 ≤ p ∧ p ≤ 1 then .ok p else .error (.probabilityOutOfRange p)

end Configuration

def AskSection.resolve (s : AskSection) : Except ConfigurationFault Settings := do
  let property ← Configuration.name "ask.property" Vocabulary.has s.property
  let serviceRoot ← Configuration.name "ask.service_root" Vocabulary.service s.serviceRoot
  return ⟨property, serviceRoot, Configuration.limit s.maxCombinations⟩

def MetricSection.resolve (s : MetricSection) : Except ConfigurationFault Redundancy.Defaults := do
  let survival ← Configuration.probability s.survival
  let failureProperty ← Configuration.name "metrics.probability_of_failure_property"
    Vocabulary.probabilityOfFailure s.failureProperty
  return ⟨survival, failureProperty⟩

end RobotTeam
