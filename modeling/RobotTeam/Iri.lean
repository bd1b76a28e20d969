import Std.Data.ExtTreeMap
import RobotTeam.Text.Characters

/-!
Names of agent models, services, resources and properties. A name is an IRI, taken as it is written;
IRIs are ordered by code point, and reports show the local name only.
-/

namespace RobotTeam

structure Iri where
  text : String
  deriving DecidableEq, Repr, Inhabited

namespace Iri

instance : Ord Iri where
  compare := compareOn Iri.text

instance : Std.TransOrd Iri :=
  inferInstanceAs (Std.TransCmp (compareOn Iri.text))

instance : Std.LawfulEqOrd Iri where
  compare_self {a} := Std.ReflOrd.compare_self (a := a.text)
  eq_of_compare {a b} h := by
    have same : a.text = b.text := Std.LawfulEqOrd.eq_of_compare h
    cases a; cases b; cases same; rfl

/-- Of two names one stands first. -/
theorem isLE_total (a b : Iri) : ((compare a b).isLE || (compare b a).isLE) = true := by
  have swap : compare b a = (compare a b).swap := Std.OrientedCmp.eq_swap
  rw [swap]
  cases compare a b <;> rfl

instance : ToString Iri where
  toString i := i.text

/-- The part after the last number sign, else after the last slash, else the whole text. -/
def localName (i : Iri) : String :=
  match Text.cutLast? '#' i.text.toList with
  | some (_, name) => String.ofList name
  | none =>
    match Text.cutLast? '/' i.text.toList with
    | some (_, name) => String.ofList name
    | none => i.text

def localNames (names : List Iri) : String := ", ".intercalate (names.map localName)

def isFull (name : String) : Bool :=
  Text.occursIn [':', '/', '/'] name.toList

def complete (space name : String) : Iri :=
  if isFull name then ⟨name⟩ else ⟨space ++ name⟩

end Iri

end RobotTeam
