import RobotTeam.Document.Pools
import RobotTeam.Literal
import RobotTeam.Restriction.Solution
import RobotTeam.Support

/-!
Restrictions, bounds, solutions, degrees of support and data values in documents. A restriction says in
the field `type` what it counts.
-/

namespace RobotTeam

open Codec

instance : Codec Kind where
  write k := .text k.text
  read? format d := (d.word? format.isNothing).bind Kind.ofText?

def Support.ofKey? (s : String) : Option Support := Support.all.find? fun degree => degree.key == s

instance : Codec Support where
  write s := .text s.key
  read? format d := (d.word? format.isNothing).bind Support.ofKey?

namespace Restriction

def fillerField (isClass : Bool) : String := if isClass then "qualification" else "datatype"

def typeText (isClass : Bool) : String := if isClass then "object" else "data"

def isClass? : Datum → Option Bool
  | .text word => [true, false].find? fun isClass => typeText isClass == word
  | _ => none

def fieldNames (isClass : Bool) : List String :=
  ["property", fillerField isClass, "cardinality", "kind"]

/-- Beside a type, an empty record stands for nothing as well as null does. -/
def isNothing : Datum → Bool
  | .null => true
  | .record [] => true
  | _ => false

/-- The type of a restriction and what is said beside it. In a list the type comes first. -/
def parts? : Datum → Option (Bool × Datum)
  | .record fields => do
    let isClass ← field? isClass? fields "type"
    return (isClass, .record fields)
  | .list (first :: rest) => do
    let isClass ← isClass? first
    return (isClass, .list rest)
  | _ => none

end Restriction

instance : Codec Restriction where
  write r :=
    .record [("type", .text (Restriction.typeText r.isObject)), ("property", write r.property),
      (Restriction.fillerField r.isObject, write r.qualification),
      ("cardinality", writeNat r.cardinality), ("kind", write r.kind)]
  read? format d := do
    let (isClass, body) ← Restriction.parts? d
    let fields ← fields? format false (Restriction.fieldNames isClass) body
    let property ← field? (read? format) fields "property"
    let filler ← field? (read? format) fields (Restriction.fillerField isClass)
    let cardinality ← field? count? fields "cardinality"
    let kind ← field? (fun k => (k.word? Restriction.isNothing).bind Kind.ofText?) fields "kind"
    return ⟨property, if isClass then .ofClass filler else .ofDatatype filler, cardinality, kind⟩

instance : Codec Bound where
  write b := .record [("model", write b.model), ("min", writeNat b.min), ("max", writeNat b.max)]
  read? format d := do
    let fields ← fields? format false ["model", "min", "max"] d
    return ⟨← field? (read? format) fields "model", ← field? count? fields "min",
      ← field? count? fields "max"⟩

instance : Codec Assignment where
  write a :=
    .record [("required", write a.required), ("available", write a.available),
      ("count", writeNat a.count)]
  read? format d := do
    let fields ← fields? format false ["required", "available", "count"] d
    return ⟨← field? (read? format) fields "required", ← field? (read? format) fields "available",
      ← field? count? fields "count"⟩

instance : Codec Solution where
  write s := .record [("assignments", write s.assignments)]
  read? format d := do
    let fields ← fields? format false ["assignments"] d
    return ⟨← field? (read? format) fields "assignments"⟩

/-- An integer that does not fit 64 bits with a sign is read as a double. -/
instance : Codec Literal where
  write
    | .integer n => .integer n
    | .double x => .double x
    | .text s => .text s
  read?
    | _, .integer n =>
      if Width.fits n then some (.integer n) else some (.double (Decimal.ofInt n))
    | _, .double x => some (.double x)
    | _, .text s => some (.text s)
    | _, _ => none

end RobotTeam
