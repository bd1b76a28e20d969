import RobotTeam.Query.Total

/-!
Totals that were computed before. An entry is never replaced.
-/

namespace RobotTeam

structure Cache where
  entries : Std.ExtTreeMap TotalKey (List Restriction)
  deriving DecidableEq

namespace Cache

instance : EmptyCollection Cache := ⟨⟨∅⟩⟩
instance : Inhabited Cache := ⟨∅⟩

def lookup? (c : Cache) (key : TotalKey) : Option (List Restriction) := c.entries[key]?

def insert (c : Cache) (key : TotalKey) (total : List Restriction) : Cache :=
  ⟨c.entries.insertIfNew key total⟩

def size (c : Cache) : Nat := c.entries.size

def isEmpty (c : Cache) : Bool := c.entries.isEmpty

end Cache

end RobotTeam
