import RobotTeam.Ontology
import RobotTeam.Restriction.Solution

/-!
Matching of resources on hand to required resources. A matcher may keep a state from one problem to
the next, which is why solving returns it. The simplest one follows a script: it plays its outcomes back
one by one whatever it is asked, and supports a service when the combination covers one of the pools
listed for it.
-/

namespace RobotTeam

class Matcher (μ ω : Type) where
  /-- The services among the given ones that the combination supports. -/
  supported : μ → ω → Combination → List Iri → List Iri
  /-- An assignment that gives every requirement its minimum, if the matcher finds one. -/
  solve : μ → ω → List Bound → List Bound → Option Solution × μ

structure Script where
  support : List (Iri × Pool)
  outcomes : List (Option Solution)

namespace Script

def supported (s : Script) (c : Combination) (services : List Iri) : List Iri :=
  services.filter fun service =>
    s.support.any fun e => e.1 == service && decide (e.2.Within c.toPool)

def play (s : Script) : Option Solution × Script :=
  match s.outcomes with
  | [] => (none, s)
  | outcome :: rest => (outcome, { s with outcomes := rest })

instance {ω : Type} : Matcher Script ω where
  supported s _ := s.supported
  solve s _ _ _ := s.play

end Script

end RobotTeam
