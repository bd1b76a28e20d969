import RobotTeam.Literal
import RobotTeam.Restriction.Basic

/-!
What queries ask of a body of knowledge: the class hierarchy, the declared restrictions and the data
values.
-/

namespace RobotTeam

class Ontology (ω : Type) where
  /-- Whether the first class is the second one or lies below it. -/
  isSubclass : ω → Iri → Iri → Bool
  /-- The other classes below a class, or only those right below it. -/
  subclasses : ω → Iri → Bool → List Iri
  /-- The restrictions of a class along a property, on one qualification if it is given. -/
  restrictions : ω → Iri → Iri → Option Iri → List Restriction
  value? : ω → Iri → Iri → Option Literal

end RobotTeam
