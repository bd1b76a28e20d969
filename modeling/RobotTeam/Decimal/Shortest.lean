import RobotTeam.Decimal.Double

/-!
The shortest decimal that reads back as a given double, and of several that short the nearest one.
Where two are equally near, the tie rule decides.
-/

namespace RobotTeam.Decimal

inductive Tie where
  | upward
  | toEven
  deriving DecidableEq, Repr

structure Scientific where
  digits : Nat
  exponent : Int
  deriving DecidableEq, Repr

/-- Compares `a * 10 ^ d` with `b * 2 ^ e` exactly, through these two integers. -/
def commonScale (d e : Int) : Nat × Nat :=
  (tenPow d.toNat * twoPow (-e).toNat, tenPow (-d).toNat * twoPow e.toNat)

/-- The numbers that read back as the double lie between `low` and `high` quarters of its last place;
the ends belong to them when the significand is even. -/
structure Interval where
  low : Nat
  middle : Nat
  high : Nat
  closed : Bool
  deriving DecidableEq, Repr

/-- Below a power of two the next double is half as far away as above it. -/
def interval (significand : Nat) (exponent : Int) : Interval :=
  let narrow := significand = hiddenBit ∧ -1074 < exponent
  { low := if narrow then 4 * significand - 1 else 4 * significand - 2
    middle := 4 * significand
    high := 4 * significand + 2
    closed := significand % 2 = 0 }

/-- The decimal point: the least `k` such that the number lies below `10 ^ k`. -/
def pointOf (significand : Nat) (exponent : Int) : Int :=
  let guess := ((significand.log2 : Int) + exponent) * 30103 / 100000
  let below (k : Int) : Bool :=
    let (ten, two) := commonScale k exponent
    significand * two < ten
  (([0, 1, 2].map (guess + ·)).find? below).getD (guess + 3)

def Tie.takesLower (tie : Tie) (lower gapDown gapUp : Nat) : Bool :=
  gapDown < gapUp || (gapDown = gapUp && tie = .toEven && lower % 2 = 0)

/-- The multiple of `10 ^ place` nearest to the number among those that read back as it, looked for
right below and right above the number. -/
def candidate? (tie : Tie) (i : Interval) (exponent place : Int) : Option Nat :=
  let (ten, two) := commonScale place (exponent - 2)
  let inside (d : Nat) : Bool :=
    let x := d * ten
    if i.closed then i.low * two ≤ x && x ≤ i.high * two
    else i.low * two < x && x < i.high * two
  let down := i.middle * two / ten
  let up := down + 1
  let gapDown := i.middle * two - down * ten
  let gapUp := up * ten - i.middle * two
  if inside down && (!inside up || tie.takesLower down gapDown gapUp) then some down
  else if inside up then some up
  else none

def stripZeros (digits : Nat) (exponent : Int) : Nat → Scientific
  | 0 => ⟨digits, exponent⟩
  | fuel + 1 =>
    if digits % 10 = 0 ∧ digits ≠ 0 then stripZeros (digits / 10) (exponent + 1) fuel
    else ⟨digits, exponent⟩

/-- Seventeen digits always suffice. -/
def shortest (tie : Tie) (significand : Nat) (exponent : Int) : Scientific :=
  let i := interval significand exponent
  let point := pointOf significand exponent
  let found := (List.range' 1 17).findSome? fun (n : Nat) =>
    let place := point - n
    (candidate? tie i exponent place).map fun digits => stripZeros digits place 17
  found.getD ⟨0, 0⟩

end RobotTeam.Decimal
