import RobotTeam.Document.Restrictions
import RobotTeam.Document.Toml.Reader
import RobotTeam.FactBase.Description

/-!
Fact bases in documents. Everything but the kind, the qualification and the cardinality of a
restriction has a default.
-/

namespace RobotTeam

open Codec

instance : Codec RestrictionFact where
  write r :=
    .record [("property", write r.property), ("kind", write r.kind),
      ("qualification", write r.qualification), ("cardinality", writeNat r.cardinality)]
  read? format d := do
    let fields ← fields? format false ["property", "kind", "qualification", "cardinality"] d
    let property ← fieldOr? "has" (read? format) fields "property"
    let kind ← field? (read? format) fields "kind"
    let qualification ← field? (read? format) fields "qualification"
    let cardinality ← field? count? fields "cardinality"
    return ⟨property, kind, qualification, cardinality⟩

instance : Codec ClassFacts where
  write c :=
    .record [("subclass_of", write c.superclasses), ("restrictions", write c.restrictions),
      ("data", write c.data)]
  read? format d := do
    let fields ← fields? format true ["subclass_of", "restrictions", "data"] d
    let superclasses ← fieldOr? [] (read? format) fields "subclass_of"
    let restrictions ← fieldOr? [] (read? format) fields "restrictions"
    let data ← fieldOr? ∅ (read? format) fields "data"
    return ⟨superclasses, restrictions, data⟩

instance : Codec Facts where
  write f := .record [("namespace", write f.space), ("classes", write f.classes)]
  read? format d := do
    let fields ← fields? format true ["namespace", "classes"] d
    let space ← fieldOr? Vocabulary.space (read? format) fields "namespace"
    let classes ← fieldOr? ∅ (read? format) fields "classes"
    return ⟨space, classes⟩

def Facts.ofToml? (s : String) : Option Facts := (Toml.read? s).bind (read? .toml)

end RobotTeam
