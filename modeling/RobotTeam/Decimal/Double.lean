/-!
Double-precision numbers as exact fractions: taking a number apart into a multiple of a power of two,
finding the double nearest to a fraction, and the total order of doubles.
-/

namespace RobotTeam.Decimal

/-- The quotient rounded to the nearest integer, a half going to the even one. -/
def roundDiv (num den : Nat) : Nat :=
  let quotient := num / den
  let rest := num % den
  if 2 * rest < den then quotient
  else if den < 2 * rest then quotient + 1
  else quotient + quotient % 2

def twoPow (n : Nat) : Nat := Nat.pow 2 n

def tenPow (n : Nat) : Nat := Nat.pow 10 n

def signBit : Nat := 0x8000000000000000

def hiddenBit : Nat := 0x10000000000000

def infinityBits : Nat := 2047 * hiddenBit

/-- What a double stands for; `finite` is the multiple `significand` of two to the `exponent`. -/
inductive Parts where
  | nan
  | infinite (negative : Bool)
  | finite (negative : Bool) (significand : Nat) (exponent : Int)
  deriving DecidableEq, Repr

def partsOfBits (bits : Nat) : Parts :=
  let negative : Bool := signBit ≤ bits
  let field : Nat := bits / hiddenBit % 2048
  let fraction : Nat := bits % hiddenBit
  if field = 2047 then
    if fraction = 0 then .infinite negative else .nan
  else if field = 0 then .finite negative fraction (-1074)
  else .finite negative (hiddenBit + fraction) ((field : Int) - 1075)

def parts (x : Float) : Parts := partsOfBits x.toBits.toNat

def reachesTwoPow (num den : Nat) (e : Int) : Bool :=
  den * twoPow e.toNat ≤ num * twoPow (-e).toNat

/-- The bits of the double nearest to `num / den`, ties going to the even significand. Fractions
beyond the largest double give infinity. -/
def nearestBits (num den : Nat) : Nat :=
  if num = 0 then 0
  else
    let guess : Int := (num.log2 : Int) - den.log2
    let top := if reachesTwoPow num den guess then guess else guess - 1
    let exponent := max (top - 52) (-1074)
    let significand := roundDiv (num * twoPow (-exponent).toNat) (den * twoPow exponent.toNat)
    min ((exponent + 1074).toNat * hiddenBit + significand) infinityBits

def ofBits (negative : Bool) (bits : Nat) : Float :=
  Float.ofBits (UInt64.ofNat (if negative then bits + signBit else bits))

def infinity (negative : Bool) : Float := ofBits negative infinityBits

def notANumber : Float := ofBits false (infinityBits + hiddenBit / 2)

def ofInt (n : Int) : Float := ofBits (n < 0) (nearestBits n.natAbs 1)

/-- The position of a double in the total order: by value, minus zero below zero, and what is not a
number at the end. -/
def position (x : Float) : Int :=
  let bits := x.toBits.toNat
  if bits < signBit then bits else -1 - (bits - signBit : Nat)

def totalLE (x y : Float) : Bool := position x ≤ position y

end RobotTeam.Decimal
