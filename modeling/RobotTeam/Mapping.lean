import RobotTeam.QueryError

/-!
The functionality mapping of a pool: which services each combination supports, and the other way
round which combinations support a service. Both directions are kept in step by `insert`.
-/

namespace RobotTeam

structure Mapping where
  pool : Pool
  functions : Std.ExtTreeMap Combination (List Iri)
  supporters : Std.ExtTreeMap Iri (Array Combination)

namespace Mapping

def empty (pool : Pool) : Mapping := ⟨pool, ∅, ∅⟩

instance : Inhabited Mapping := ⟨empty ∅⟩

def dropSupporter (c : Combination) (supporters : Std.ExtTreeMap Iri (Array Combination))
    (function : Iri) : Std.ExtTreeMap Iri (Array Combination) :=
  supporters.alter function fun
    | none => none
    | some list =>
      let kept := list.filter (· ≠ c)
      if kept.isEmpty then none else some kept

def addSupporter (c : Combination) (supporters : Std.ExtTreeMap Iri (Array Combination))
    (function : Iri) : Std.ExtTreeMap Iri (Array Combination) :=
  supporters.alter function fun list => some ((list.getD #[]).push c)

/-- Records what a combination supports, in place of what was recorded for it before. -/
def insert (m : Mapping) (c : Combination) (functions : List Iri) : Except QueryError Mapping :=
  if c.toPool.Within m.pool then
    let retracted := (m.functions.getD c []).foldl (dropSupporter c) m.supporters
    .ok { m with
      functions := m.functions.insert c functions
      supporters := functions.foldl (addSupporter c) retracted }
  else .error (.invalidArgument (.outsidePool c))

def functionsOf? (m : Mapping) (c : Combination) : Option (List Iri) := m.functions[c]?

def combinationsOf? (m : Mapping) (function : Iri) : Option (List Combination) :=
  m.supporters[function]?.map Array.toList

def combinations (m : Mapping) : List Combination := m.functions.keys

def functionalities (m : Mapping) : List Iri := m.supporters.keys

def size (m : Mapping) : Nat := m.functions.size

def render (m : Mapping) : String :=
  let forward := m.functions.toList.map fun e =>
    s!"    {e.1} --> [{Iri.localNames e.2}]\n"
  let backward := m.supporters.toList.map fun e =>
    s!"    {e.1.localName}\n" ++
      String.join (e.2.toList.map fun c => s!"        supported by: {c}\n")
  "combination --> functions:\n" ++ String.join forward
    ++ "function --> combinations:\n" ++ String.join backward

end Mapping

end RobotTeam
