import RobotTeam.Document.Json.Writer
import RobotTeam.Document.Restrictions
import RobotTeam.Mapping
import RobotTeam.Redundancy.Table

/-!
Reports on the answers to queries, and the documents that hold them.
-/

namespace RobotTeam

inductive Report where
  | mapping (pool : Pool) (entries : List (Combination × List Iri))
  | support (service model : Iri) (count : Nat) (degree : Support)
  | saturation (services : List Iri) (bounds : Pool)
  | resourceSupport (services : List Iri) (combinations : List Combination)
  | redundancy (services : List Iri) (pool : Pool) (shared : Bool) (survival : Float)
  | metricMap (entries : List (Redundancy.Entry Float))
  | transportCapacity (agent model : Iri) (capacity : Nat)

namespace Report

open Codec

def ofMapping (m : Mapping) : Report := .mapping m.pool m.functions.toList

def mappingEntry (e : Combination × List Iri) : Datum :=
  .record [("combination", write e.1), ("services", write e.2)]

def metricEntry (e : Redundancy.Entry Float) : Datum :=
  .record [("service", write e.service), ("model", write e.model),
    ("survivability", write e.survival)]

def parts : Report → String × Fields
  | .mapping pool entries =>
    ("mapping", [("pool", write pool), ("entries", .list (entries.map mappingEntry))])
  | .support service model count degree =>
    ("support", [("service", write service), ("model", write model), ("count", writeNat count),
      ("support", write degree)])
  | .saturation services bounds =>
    ("saturation", [("services", write services), ("bounds", write bounds)])
  | .resourceSupport services combinations =>
    ("resource_support", [("services", write services), ("combinations", write combinations)])
  | .redundancy services pool shared survival =>
    ("redundancy", [("services", write services), ("pool", write pool),
      ("shared_use", .bool shared), ("survivability", write survival)])
  | .metricMap entries => ("metric_map", [("entries", .list (entries.map metricEntry))])
  | .transportCapacity agent model capacity =>
    ("transport_capacity", [("agent", write agent), ("model", write model),
      ("capacity", writeNat capacity)])

def toDatum (r : Report) : Datum :=
  let (query, fields) := r.parts
  .record (("query", .text query) :: fields)

def toJson (r : Report) : String := Json.pretty r.toDatum

end Report

end RobotTeam
