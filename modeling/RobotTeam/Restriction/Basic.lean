import RobotTeam.QueryError

/-!
Cardinality restrictions: how many things of a kind a class must, may or does have along a property.
Restrictions on datatypes are declared and shown, but no query counts with them.
-/

namespace RobotTeam

/-- What a restriction counts: instances of a class, or values of a datatype. -/
inductive Filler where
  | ofClass (name : Iri)
  | ofDatatype (name : Iri)
  deriving DecidableEq, Repr, Inhabited

namespace Filler

def name : Filler → Iri
  | ofClass name => name
  | ofDatatype name => name

def isClass : Filler → Bool
  | ofClass _ => true
  | ofDatatype _ => false

end Filler

structure Restriction where
  property : Iri
  filler : Filler
  cardinality : Nat
  kind : Kind
  deriving DecidableEq, Repr, Inhabited

namespace Restriction

def object (property qualification : Iri) (cardinality : Nat) (kind : Kind) : Restriction :=
  ⟨property, .ofClass qualification, cardinality, kind⟩

def qualification (r : Restriction) : Iri := r.filler.name

def isObject (r : Restriction) : Bool := r.filler.isClass

def expectClass (r : Restriction) : Except QueryError Iri :=
  match r.filler with
  | .ofClass name => .ok name
  | .ofDatatype _ => .error (.typeMismatch (.dataRestriction r.property))

def render (r : Restriction) : String :=
  s!"{r.property.localName} {r.kind} {r.cardinality} {r.qualification.localName}"

end Restriction

end RobotTeam
