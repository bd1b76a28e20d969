import RobotTeam.Iri

/-!
The namespace of the organization model and its fixed terms.
-/

namespace RobotTeam.Vocabulary

def space : String := "http://www.rock-robotics.org/2014/01/om-schema#"

def term (name : String) : Iri := ⟨space ++ name⟩

def service : Iri := term "Service"

def has : Iri := term "has"

def probabilityOfFailure : Iri := term "probabilityOfFailure"

def hasTransportCapacity : Iri := term "hasTransportCapacity"

def transportCapacity : Iri := term "transportCapacity"

def transportDemand : Iri := term "transportDemand"

/-- Reads a name as a user writes it: trimmed, not empty, and completed by the namespace. -/
def ofName? (name : String) : Option Iri :=
  match Text.trim name.toList with
  | [] => none
  | c :: rest => some (Iri.complete space (String.ofList (c :: rest)))

end RobotTeam.Vocabulary
