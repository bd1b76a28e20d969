import RobotTeam.Decimal.Shortest

/-!
Texts of doubles. Messages show the shortest digits in full positional notation, ties going upward;
documents show them with at least one digit after the point, and with an exponent when the number is
large or small, ties going to the even digit; tables show a fixed number of decimal places.
-/

namespace RobotTeam.Decimal

def zeros (n : Nat) : String := "".pushn '0' n

def sign (negative : Bool) : String := if negative then "-" else ""

def positional (s : Scientific) : String :=
  let text := toString s.digits
  if 0 ≤ s.exponent then text ++ zeros s.exponent.toNat
  else
    let places := (-s.exponent).toNat
    if places < text.length then
      let whole := text.length - places
      String.ofList (text.toList.take whole) ++ "." ++ String.ofList (text.toList.drop whole)
    else "0." ++ zeros (places - text.length) ++ text

def leading (s : Scientific) : Int := s.exponent + (toString s.digits).length - 1

def exponential (s : Scientific) : String :=
  let text := (toString s.digits).toList
  let tail := if text.length ≤ 1 then "" else "." ++ String.ofList (text.drop 1)
  let power := leading s
  let mark := if power < 0 then "e-" else "e+"
  String.ofList (text.take 1) ++ tail ++ mark ++ toString power.natAbs

def plain (x : Float) : String :=
  match parts x with
  | .nan => "NaN"
  | .infinite negative => sign negative ++ "inf"
  | .finite negative significand exponent =>
    if significand = 0 then sign negative ++ "0"
    else sign negative ++ positional (shortest .upward significand exponent)

def document? (x : Float) : Option String :=
  match parts x with
  | .nan => none
  | .infinite _ => none
  | .finite negative significand exponent =>
    if significand = 0 then some (sign negative ++ "0.0")
    else
      let s := shortest .toEven significand exponent
      let body :=
        if leading s < -5 ∨ 15 < leading s then exponential s
        else if s.exponent < 0 then positional s
        else positional s ++ ".0"
      some (sign negative ++ body)

/-- The exact value rounded to so many places, a half going to the even digit. -/
def fixed (places : Nat) (x : Float) : String :=
  match parts x with
  | .nan => "NaN"
  | .infinite negative => sign negative ++ "inf"
  | .finite negative significand exponent =>
    let scaled :=
      roundDiv (significand * twoPow exponent.toNat * tenPow places) (twoPow (-exponent).toNat)
    let fraction := toString (scaled % tenPow places)
    let point := if places = 0 then "" else "." ++ zeros (places - fraction.length) ++ fraction
    sign negative ++ toString (scaled / tenPow places) ++ point

end RobotTeam.Decimal
