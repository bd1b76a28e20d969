/-!
To what degree a team supports a service, judged by how many of the requirements are met.
-/

namespace RobotTeam

inductive Support where
  | none
  | part
  | full
  deriving DecidableEq, Repr, Inhabited

namespace Support

def all : List Support := [.none, .part, .full]

def rank : Support → Nat
  | .none => 0
  | .part => 1
  | .full => 2

instance : Ord Support where
  compare := compareOn rank

instance : LE Support where
  le a b := a.rank ≤ b.rank

instance (a b : Support) : Decidable (a ≤ b) :=
  inferInstanceAs (Decidable (a.rank ≤ b.rank))

def classify (met total : Nat) : Support :=
  if met = total then .full else if met = 0 then .none else .part

def text : Support → String
  | .none => "no support"
  | .part => "partial support"
  | .full => "full support"

def key : Support → String
  | .none => "no_support"
  | .part => "partial_support"
  | .full => "full_support"

end Support

end RobotTeam
