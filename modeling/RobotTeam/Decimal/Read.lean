import RobotTeam.Decimal.Double

/-!
Reading decimal numerals: natural numbers with their faults, and doubles, which are rounded correctly
from the exact value of the numeral.
-/

namespace RobotTeam.Decimal

def isDigit (c : Char) : Bool := '0' ≤ c && c ≤ '9'

def digitValue (c : Char) : Nat := c.toNat - '0'.toNat

def digitsValue (digits : List Char) : Nat :=
  digits.foldl (fun n c => 10 * n + digitValue c) 0

inductive NumeralFault where
  | empty
  | strayCharacter
  | tooLarge
  deriving DecidableEq, Repr

def NumeralFault.text : NumeralFault → String
  | .empty => "cannot parse integer from empty string"
  | .strayCharacter => "invalid digit found in string"
  | .tooLarge => "number too large to fit in target type"

/-- Reads on after the value `n`. The first fault from the left is reported. -/
def readDigits (largest : Nat) : Nat → List Char → Except NumeralFault Nat
  | n, [] => .ok n
  | n, c :: rest =>
    if !isDigit c then .error .strayCharacter
    else if largest < 10 * n + digitValue c then .error .tooLarge
    else readDigits largest (10 * n + digitValue c) rest

def readNat (largest : Nat) : List Char → Except NumeralFault Nat
  | [] => .error .empty
  | ['+'] => .error .strayCharacter
  | '+' :: digits => readDigits largest 0 digits
  | digits => readDigits largest 0 digits

/-- The double nearest to `digits * 10 ^ exponent`. Numbers far outside the range of doubles are
settled by their size alone. -/
def toDouble (negative : Bool) (digits : Nat) (exponent : Int) : Float :=
  let size := exponent + (toString digits).length
  if digits = 0 ∨ size < -330 then ofBits negative 0
  else if 310 < size then infinity negative
  else ofBits negative (nearestBits (digits * tenPow exponent.toNat) (tenPow (-exponent).toNat))

def readExponent? : List Char → Option Int
  | [] => some 0
  | e :: rest =>
    if e = 'e' || e = 'E' then
      let (negative, digits) :=
        match rest with
        | '-' :: digits => (true, digits)
        | '+' :: digits => (false, digits)
        | digits => (false, digits)
      if digits.isEmpty || digits.any (!isDigit ·) then none
      else
        let n := digitsValue digits
        some (if negative then -(n : Int) else n)
    else none

def readUnsigned? (negative : Bool) (s : List Char) : Option Float :=
  let whole := s.takeWhile isDigit
  let (fraction, rest) :=
    match s.dropWhile isDigit with
    | '.' :: rest => (rest.takeWhile isDigit, rest.dropWhile isDigit)
    | rest => ([], rest)
  if whole.isEmpty && fraction.isEmpty then none
  else
    (readExponent? rest).map fun exponent =>
      toDouble negative (digitsValue (whole ++ fraction)) (exponent - fraction.length)

def readNamed? (negative : Bool) (s : List Char) : Option Float :=
  let name := String.ofList (s.map Char.toLower)
  if name = "inf" || name = "infinity" then some (infinity negative)
  else if name = "nan" then some notANumber
  else none

def readDouble? (s : List Char) : Option Float :=
  let (negative, body) :=
    match s with
    | '-' :: body => (true, body)
    | '+' :: body => (false, body)
    | body => (false, body)
  match readNamed? negative body with
  | some x => some x
  | none => readUnsigned? negative body

end RobotTeam.Decimal
