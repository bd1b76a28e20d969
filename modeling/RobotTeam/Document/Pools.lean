import RobotTeam.Document.Codec
import RobotTeam.Pool.Delta

/-!
Pools, deltas and combinations in documents. Pools and deltas are records from models to counts, and
zeros are kept; combinations are lists, whose order is kept.
-/

namespace RobotTeam

open Codec

instance : Codec Iri where
  write i := .text i.text
  read?
    | _, .text s => some ⟨s⟩
    | _, _ => none

def Codec.byModel? {α : Type} (number? : Datum → Option α) (fields : Fields) :
    Option (List (Iri × α)) :=
  fields.mapM fun f => (number? f.2).map (⟨f.1⟩, ·)

instance : Codec Pool where
  write p := .record (p.entries.map fun e => (e.1.text, writeNat e.2))
  read?
    | _, .record fields =>
      (byModel? count? fields).map fun entries => ⟨Std.ExtTreeMap.ofList entries⟩
    | _, _ => none

namespace Delta

def count? (d : Datum) : Option Int := integerIn? Width.least Width.most d

end Delta

instance : Codec Delta where
  write d := .record (d.entries.map fun e => (e.1.text, .integer e.2))
  read?
    | _, .record fields =>
      (byModel? Delta.count? fields).map fun entries => ⟨Std.ExtTreeMap.ofList entries⟩
    | _, _ => none

instance : Codec Combination where
  write c := write c.models
  read? format d := (read? format d).map Combination.mk

end RobotTeam
