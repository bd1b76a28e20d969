import RobotTeam.Restriction.Bound

/-!
Solutions of a matching problem: which instances on hand serve which requirement. Subtracting a
solution lowers the bounds of what is on hand by exactly what the solution uses.
-/

namespace RobotTeam

structure Assignment where
  required : Iri
  available : Iri
  count : Nat
  deriving DecidableEq, Repr, Inhabited

structure Solution where
  assignments : List Assignment
  deriving DecidableEq, Repr, Inhabited

namespace Bound

def take (model : Iri) (n : Nat) : List Bound → Except QueryError (List Bound)
  | [] => .error (.boundExceeded model n 0)
  | b :: rest =>
    if b.model = model then
      if b.max < n then .error (.boundExceeded model n b.max) else .ok (b.lower n :: rest)
    else (take model n rest).map (b :: ·)

def takeAll : List (Iri × Nat) → List Bound → Except QueryError (List Bound)
  | [], bounds => .ok bounds
  | e :: rest, bounds =>
    match take e.1 e.2 bounds with
    | .ok fewer => takeAll rest fewer
    | .error error => .error error

theorem total_take {model : Iri} {n : Nat} {bounds fewer : List Bound}
    (h : take model n bounds = .ok fewer) : total fewer + n = total bounds := by
  induction bounds generalizing fewer with
  | nil => simp [take] at h
  | cons b rest ih =>
    simp only [take] at h
    split at h
    · split at h
      · simp at h
      · cases h
        simp only [total, lower, List.map_cons, Count.sum_cons]
        omega
    · cases e : take model n rest with
      | error _ => simp [e, Except.map] at h
      | ok r =>
        simp only [e, Except.map, Except.ok.injEq] at h
        subst h
        have := ih e
        simp only [total, List.map_cons, Count.sum_cons] at this ⊢
        omega

theorem total_takeAll {entries : List (Iri × Nat)} {bounds fewer : List Bound}
    (h : takeAll entries bounds = .ok fewer) :
    total fewer + Count.sum (entries.map Prod.snd) = total bounds := by
  induction entries generalizing bounds with
  | nil => cases h; simp
  | cons e rest ih =>
    simp only [takeAll] at h
    split at h
    · next mid hm =>
      have := total_take hm
      have := ih h
      simp only [List.map_cons, Count.sum_cons]
      omega
    · simp at h

end Bound

namespace Solution

/-- How many instances of each model are used; assignments of nothing do not count. -/
def consumed (s : Solution) : Pool :=
  Pool.ofEntries (s.assignments.map fun a => (a.available, a.count))

/-- What is left of the bounds, or the first model of which the solution uses more than there is. -/
def subtractFrom (s : Solution) (bounds : List Bound) : Except QueryError (List Bound) :=
  Bound.takeAll s.consumed.entries bounds

theorem total_subtractFrom {s : Solution} {bounds fewer : List Bound}
    (h : s.subtractFrom bounds = .ok fewer) :
    Bound.total fewer + s.consumed.instances = Bound.total bounds :=
  Bound.total_takeAll h

def render (s : Solution) : String :=
  "Solution:" ++ String.join (s.assignments.map fun a =>
    s!" {a.required.localName} <- {a.count}x{a.available.localName};")

end Solution

namespace Pool

theorem instances_pos {p : Pool} (h : p.NoZeros) (nonempty : p.isEmpty = false) : 0 < p.instances := by
  cases e : p.entries with
  | nil =>
    have : p = ∅ := ext_entries (by rw [e]; rfl)
    subst this
    exact absurd nonempty (by decide)
  | cons x rest =>
    have := h x (by simp [e])
    simp only [instances, e, List.map_cons, Count.sum_cons]
    omega

end Pool

end RobotTeam
