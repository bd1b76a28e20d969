import RobotTeam.Text.Characters
import RobotTeam.Decimal.Layout
import RobotTeam.Decimal.Read

/-!
Data values of classes. A value counts as a number when it is one or when its text reads as one.
-/

namespace RobotTeam

inductive Literal where
  | integer (n : Int)
  | double (x : Float)
  | text (s : String)
  deriving Repr, Inhabited

namespace Literal

def number? : Literal → Option Float
  | integer n => some (Decimal.ofInt n)
  | double x => some x
  | text s => Decimal.readDouble? (Text.trim s.toList)

def render : Literal → String
  | integer n => toString n
  | double x => Decimal.plain x
  | text s => "\"" ++ s ++ "\""

end Literal

end RobotTeam
