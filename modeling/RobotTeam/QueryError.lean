import RobotTeam.Pool.Combination
import RobotTeam.Restriction.Kind

/-!
Why a query is refused. An error belongs to one of six classes; within a class the reason says what
went wrong, and `QueryError.message` is the only place where an error becomes text.
-/

namespace RobotTeam

inductive Reason where
  /-- Given by a caller in words of its own. -/
  | stated (text : String)
  | outsidePool (combination : Combination)
  | tooManyCombinations (total : Option Nat) (limit : Nat)
  | noRequirements
  | noMinimum
  | unboundedSupply (model : Iri)
  | nothingConsumed
  | dataRestriction (property : Iri)
  | unknownKind (qualification : Iri)
  | notMaximum (kind : Kind)
  | unmetRequirements (number : Nat)
  | compositeAgent
  deriving DecidableEq, Repr

namespace Reason

def text : Reason → String
  | stated text => text
  | outsidePool c => s!"combination {c} exceeds the pool of the functionality mapping"
  | tooManyCombinations total limit =>
    let number := (total.map fun n => s!"{n}").getD "too many"
    s!"pool yields {number} combinations, limit is {limit}"
  | noRequirements => "set of cardinality restrictions to define requirements is empty"
  | noMinimum => "redundancy computation requires a positive minimum for every requirement"
  | unboundedSupply model => s!"available resources must be bounded, but '{model}' is not"
  | nothingConsumed => "resource match returned an assignment that consumes nothing"
  | dataRestriction property =>
    s!"expected object cardinality restriction, but got data restriction on '{property}'"
  | unknownKind qualification => s!"cardinality restriction on '{qualification}' has unknown kind"
  | notMaximum kind =>
    s!"expected max cardinality restriction for transport capacity, but got '{kind}'"
  | unmetRequirements number =>
    s!"{number} requirement(s) cannot be met by the available resources"
  | compositeAgent => "transport capacity is not implemented for composite agents"

end Reason

inductive QueryError where
  | negativeCount (model : Iri) (count : Int)
  | boundExceeded (model : Iri) (requested available : Nat)
  | invalidArgument (reason : Reason)
  | typeMismatch (reason : Reason)
  | unmetMinimum (reason : Reason)
  | unsupported (reason : Reason)
  deriving DecidableEq, Repr

namespace QueryError

def message : QueryError → String
  | negativeCount model count =>
    s!"Resource pool delta contains a negative count for '{model}': {count}"
  | boundExceeded model requested available =>
    s!"Model bound for '{model}' exceeded: cannot remove {requested} of {available}"
  | invalidArgument reason => s!"Invalid argument: {reason.text}"
  | typeMismatch reason => s!"Type mismatch: {reason.text}"
  | unmetMinimum reason =>
    s!"Minimal resource requirements have not been fulfilled: {reason.text}"
  | unsupported reason => s!"Unsupported query: {reason.text}"

def isUnmetMinimum : QueryError → Bool
  | unmetMinimum _ => true
  | _ => false

/-- What every accepted step keeps holds after a run of accepted steps. -/
theorem kept_of_foldlM {σ α : Type} {P : σ → Prop} {step : σ → α → Except QueryError σ}
    (keeps : ∀ {s a s'}, P s → step s a = .ok s' → P s') {steps : List α} {s s' : σ} (before : P s)
    (done : steps.foldlM step s = .ok s') : P s' := by
  induction steps generalizing s with
  | nil =>
    cases done
    exact before
  | cons a rest ih =>
    rw [List.foldlM_cons] at done
    cases e : step s a with
    | error error =>
      rw [e] at done
      cases done
    | ok mid =>
      rw [e] at done
      exact ih (keeps before e) done

end QueryError

section Faults

variable {σ α ε : Type} {step : σ → α → Except ε σ} {fault? : α → Option ε} {next : σ → α → σ}

/-- Where the fault depends on the step and not on the state, a run comes to the fault of the first
faulty step, or to what all steps make of the start. -/
theorem foldlM_eq_elim_fault
    (h : ∀ s a, step s a = (fault? a).elim (Except.ok (next s a)) Except.error) (steps : List α)
    (s : σ) : steps.foldlM step s =
      (steps.findSome? fault?).elim (Except.ok (steps.foldl next s)) Except.error := by
  induction steps generalizing s with
  | nil => rfl
  | cons a rest ih =>
    rw [List.foldlM_cons, List.findSome?_cons, h]
    cases fault? a with
    | none => exact ih (next s a)
    | some e => rfl

end Faults

end RobotTeam
