import RobotTeam.Text.Lowercase

/-!
The kinds of cardinality restriction, in the order in which they compare.
-/

namespace RobotTeam

inductive Kind where
  | min
  | max
  | exact
  | unknown
  deriving DecidableEq, Repr, Inhabited

namespace Kind

def all : List Kind := [.min, .max, .exact, .unknown]

def rank : Kind → Nat
  | .min => 0
  | .max => 1
  | .exact => 2
  | .unknown => 3

instance : Ord Kind where
  compare := compareOn rank

instance : Std.TransOrd Kind :=
  inferInstanceAs (Std.TransCmp (compareOn rank))

instance : Std.LawfulEqOrd Kind where
  compare_self {k} := Std.ReflOrd.compare_self (a := k.rank)
  eq_of_compare {a b} := by cases a <;> cases b <;> decide

def text : Kind → String
  | .min => "min"
  | .max => "max"
  | .exact => "exact"
  | .unknown => "unknown"

instance : ToString Kind where
  toString := text

def boundsAs (k as : Kind) : Bool :=
  k == as || (k == .exact && (as == .min || as == .max))

def ofText? (s : String) : Option Kind :=
  all.find? fun k => k.text == s

def read (s : String) : Except String Kind :=
  let lower := Text.lowercase s
  match ofText? lower with
  | some k => .ok k
  | none => .error lower

def complaint (lower : String) : String :=
  s!"Unknown cardinality kind: {lower}. Valid: min, max, exact"

end Kind

end RobotTeam
