/-!
Values of documents. JSON and TOML texts are read into them, and JSON texts are written from them.
Integers of documents fit 64 bits, with a sign or without one.
-/

namespace RobotTeam

namespace Width

def least : Int := -0x8000000000000000

def most : Int := 0x7fffffffffffffff

def mostUnsigned : Nat := 0xffffffffffffffff

def fits (n : Int) : Bool := least ≤ n && n ≤ most

end Width

inductive Datum where
  | null
  | bool (b : Bool)
  | integer (n : Int)
  | double (x : Float)
  | text (s : String)
  | list (items : List Datum)
  | record (fields : List (String × Datum))
  deriving Inhabited

abbrev Fields := List (String × Datum)

namespace Datum

/-- A choice among words: the word itself, or a record whose only field has that name and nothing
in it. -/
def word? (isNothing : Datum → Bool) : Datum → Option String
  | .text s => some s
  | .record [(s, d)] => if isNothing d then some s else none
  | _ => none

end Datum

namespace Fields

/-- Leaves only the last of several fields with one name, at the place of the first. -/
def keepLast (fields : Fields) : Fields :=
  fields.foldl
    (fun kept f =>
      if kept.any (·.1 == f.1) then kept.map fun k => if k.1 == f.1 then f else k
      else kept ++ [f])
    []

end Fields

end RobotTeam
