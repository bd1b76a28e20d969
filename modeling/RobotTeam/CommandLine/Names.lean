import RobotTeam.Decimal.Read
import RobotTeam.Count
import RobotTeam.Pool.Basic
import RobotTeam.Vocabulary

/-!
Names and pool entries as they are typed. An entry is a name, or a name and a count parted by the last
equals sign; what follows that sign is no count if it holds a slash, as in the query part of an IRI.
-/

namespace RobotTeam.CommandLine

inductive NameFault where
  | emptyName
  | badCount (text : String) (fault : Decimal.NumeralFault)
  deriving DecidableEq, Repr

def NameFault.message : NameFault → String
  | .emptyName => "name must not be empty"
  | .badCount text fault => s!"invalid count '{text}': {fault.text}"

structure PoolEntry where
  model : Iri
  count : Nat
  deriving DecidableEq, Repr, Inhabited

def readName (s : String) : Except NameFault Iri :=
  match Vocabulary.ofName? s with
  | some i => .ok i
  | none => .error .emptyName

def readCount (s : List Char) : Except NameFault Nat :=
  match Decimal.readNat Count.limit (Text.trim s) with
  | .ok n => .ok n
  | .error fault => .error (.badCount (String.ofList s) fault)

/-- The name and the count that a text is made of; without a count there is one instance. -/
def splitEntry (s : List Char) : Except NameFault (List Char × Nat) :=
  match Text.cutLast? '=' s with
  | some (name, count) =>
    if count.contains '/' then .ok (s, 1) else (readCount count).map (name, ·)
  | none => .ok (s, 1)

def readEntry (s : String) : Except NameFault PoolEntry := do
  let (name, count) ← splitEntry s.toList
  let model ← readName (String.ofList name)
  return ⟨model, count⟩

def poolOf (entries : List PoolEntry) : Pool := Pool.ofEntries (entries.map fun e => (e.model, e.count))

end RobotTeam.CommandLine
