import RobotTeam.Configuration.Basic
import RobotTeam.Document.Pools
import RobotTeam.Document.Toml.Reader

/-!
Settings and configurations in documents.
-/

namespace RobotTeam

open Codec

def Settings.limit? : Datum → Option (Option Nat)
  | .null => some none
  | d => (natUpTo? Width.mostUnsigned d).map some

def Settings.writeLimit : Option Nat → Datum
  | none => .null
  | some n => writeNat n

instance : Codec Settings where
  write s :=
    .record [("property", write s.property), ("service_root", write s.serviceRoot),
      ("max_combinations", Settings.writeLimit s.maxCombinations)]
  read? format d := do
    let fields ← fields? format false ["property", "service_root", "max_combinations"] d
    let property ← field? (read? format) fields "property"
    let serviceRoot ← field? (read? format) fields "service_root"
    let maxCombinations ← fieldOr? none Settings.limit? fields "max_combinations"
    return ⟨property, serviceRoot, maxCombinations⟩

instance : Codec Redundancy.Defaults where
  write d :=
    .record [("default_probability_of_survival", write d.survival),
      ("probability_of_failure_property", write d.failureProperty)]
  read? format d := do
    let fields ← fields? format false
      ["default_probability_of_survival", "probability_of_failure_property"] d
    let survival ← field? (read? format) fields "default_probability_of_survival"
    let failureProperty ← field? (read? format) fields "probability_of_failure_property"
    return ⟨survival, failureProperty⟩

instance : Codec AskSection where
  write s :=
    .record [("property", write s.property), ("service_root", write s.serviceRoot),
      ("max_combinations", Settings.writeLimit s.maxCombinations)]
  read? format d := do
    let fields ← fields? format true ["property", "service_root", "max_combinations"] d
    let property ← fieldOr? none (read? format) fields "property"
    let serviceRoot ← fieldOr? none (read? format) fields "service_root"
    let maxCombinations ← fieldOr? none Settings.limit? fields "max_combinations"
    return ⟨property, serviceRoot, maxCombinations⟩

instance : Codec MetricSection where
  write s :=
    .record [("default_probability_of_survival", write s.survival),
      ("probability_of_failure_property", write s.failureProperty)]
  read? format d := do
    let fields ← fields? format true
      ["default_probability_of_survival", "probability_of_failure_property"] d
    let survival ← fieldOr? none (read? format) fields "default_probability_of_survival"
    let failureProperty ← fieldOr? none (read? format) fields "probability_of_failure_property"
    return ⟨survival, failureProperty⟩

instance : Codec Configuration where
  write c := .record [("ask", write c.ask), ("metrics", write c.metrics)]
  read? format d := do
    let fields ← fields? format true ["ask", "metrics"] d
    let ask ← fieldOr? {} (read? format) fields "ask"
    let metrics ← fieldOr? {} (read? format) fields "metrics"
    return ⟨ask, metrics⟩

def Configuration.ofToml? (s : String) : Option Configuration :=
  (Toml.read? s).bind (read? .toml)

end RobotTeam
