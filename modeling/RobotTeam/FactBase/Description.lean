import RobotTeam.FactBase.Basic
import RobotTeam.Vocabulary

/-!
Fact bases as they are written down: classes by name, each with its superclasses, restrictions and
data. Loading completes all names and refuses references to classes that are not described.
-/

namespace RobotTeam

structure RestrictionFact where
  property : String := "has"
  kind : Kind
  qualification : String
  cardinality : Nat
  deriving DecidableEq, Repr, Inhabited

structure ClassFacts where
  superclasses : List String := []
  restrictions : List RestrictionFact := []
  data : Std.ExtTreeMap String Literal := ∅
  deriving Inhabited

structure Facts where
  /-- Completes every name that is no full IRI. -/
  space : String := Vocabulary.space
  classes : Std.ExtTreeMap String ClassFacts := ∅
  deriving Inhabited

inductive FactError where
  | unknownClass (name referencedBy : String)
  | malformedRestriction (subject qualification : String)
  deriving DecidableEq, Repr

def FactError.message : FactError → String
  | .unknownClass name referencedBy => s!"Unknown class '{name}' referenced by '{referencedBy}'"
  | .malformedRestriction subject qualification =>
    s!"Malformed restriction on '{subject}': restriction on '{qualification}' has no usable kind"

namespace Facts

def resolve (facts : Facts) (name : String) : Iri := Iri.complete facts.space name

def describes (facts : Facts) (name : String) : Bool :=
  facts.classes.keys.any fun known => facts.resolve known == facts.resolve name

def check (facts : Facts) (referencedBy name : String) : Except FactError Unit :=
  if facts.describes name then .ok () else .error (.unknownClass name referencedBy)

def restriction (facts : Facts) (r : RestrictionFact) : Restriction :=
  .object (facts.resolve r.property) (facts.resolve r.qualification) r.cardinality r.kind

def loadSuperclass (facts : Facts) (name : String) (base : FactBase) (super : String) :
    Except FactError FactBase := do
  facts.check name super
  return base.addSuperclass (facts.resolve name) (facts.resolve super)

def loadRestriction (facts : Facts) (name : String) (base : FactBase) (r : RestrictionFact) :
    Except FactError FactBase := do
  facts.check name r.qualification
  if r.kind = .unknown then throw (.malformedRestriction name r.qualification)
  return base.addRestriction (facts.resolve name) (facts.restriction r)

def loadClass (facts : Facts) (base : FactBase) (name : String) (c : ClassFacts) :
    Except FactError FactBase := do
  let base := base.addClass (facts.resolve name)
  let base ← c.superclasses.foldlM (facts.loadSuperclass name) base
  let base ← c.restrictions.foldlM (facts.loadRestriction name) base
  return c.data.toList.foldl
    (fun base e => base.addValue (facts.resolve name) (facts.resolve e.1) e.2) base

def load (facts : Facts) : Except FactError FactBase :=
  facts.classes.toList.foldlM (fun base e => facts.loadClass base e.1 e.2) ∅

end Facts

end RobotTeam
