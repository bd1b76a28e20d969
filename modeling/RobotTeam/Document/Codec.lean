import Std.Data.ExtTreeMap
import RobotTeam.Count
import RobotTeam.Decimal.Double
import RobotTeam.Document.Datum

/-!
How values of the library are written into documents and read back. A record may also be written as
the list of its values in the order of its fields; fields that a reader does not know are ignored.
-/

namespace RobotTeam

inductive Format where
  | json
  | toml
  deriving DecidableEq, Repr

namespace Format

/-- Whether a list may be longer than the record it stands for. -/
def dropsSurplus : Format → Bool
  | json => false
  | toml => true

def isNothing : Format → Datum → Bool
  | json, .null => true
  | toml, .list [] => true
  | toml, .record [] => true
  | _, _ => false

end Format

class Codec (α : Type) where
  write : α → Datum
  read? : Format → Datum → Option α

namespace Codec

instance : Codec String where
  write := .text
  read? _
    | .text s => some s
    | _ => none

def integerIn? (least most : Int) : Datum → Option Int
  | .integer n => if least ≤ n ∧ n ≤ most then some n else none
  | _ => none

def writeNat (n : Nat) : Datum := .integer n

def natUpTo? (most : Nat) (d : Datum) : Option Nat := (integerIn? 0 most d).map Int.toNat

def count? (d : Datum) : Option Nat := natUpTo? Count.limit d

instance : Codec Float where
  write := .double
  read? _
    | .integer n => some (Decimal.ofInt n)
    | .double x => some x
    | _ => none

section

variable {α : Type} [Codec α]

instance : Codec (Option α) where
  write
    | none => .null
    | some a => write a
  read? format
    | .null => some none
    | d => (read? format d).map some

instance : Codec (List α) where
  write list := .list (list.map write)
  read? format
    | .list items => items.mapM (read? format)
    | _ => none

instance : Codec (Std.ExtTreeMap String α) where
  write map := .record (map.toList.map fun e => (e.1, write e.2))
  read? format
    | .record fields =>
      (fields.mapM fun f => (read? format f.2).map (f.1, ·)).map (Std.ExtTreeMap.ofList ·)
    | _ => none

end

/-- The fields of a record. In a list that stands for a record, values may be missing at the end if
the record has defaults for them. -/
def fields? (format : Format) (defaults : Bool) (names : List String) : Datum → Option Fields
  | .record fields => some fields
  | .list values =>
    if values.length = names.length ∨ (values.length < names.length ∧ defaults)
        ∨ (names.length < values.length ∧ format.dropsSurplus) then
      some (names.zip values)
    else none
  | _ => none

def field? {α : Type} (read? : Datum → Option α) (fields : Fields) (name : String) : Option α :=
  (fields.lookup name).bind read?

def fieldOr? {α : Type} (missing : α) (read? : Datum → Option α) (fields : Fields) (name : String) :
    Option α :=
  match fields.lookup name with
  | none => some missing
  | some d => read? d

end Codec

end RobotTeam
