import RobotTeam.Count
import RobotTeam.Decimal.Layout
import RobotTeam.Iri

/-!
Survival probabilities. A requirement of `m` instances survives a mission with the `m`-th power of the
probability of one instance, and `k` independent stand-ins survive unless all of them fail. The laws
hold for any numbers with products, differences and quotients: queries compute with doubles, and exact
fractions serve as well.
-/

namespace RobotTeam

namespace Survivability

section Powers

variable {P : Type} [Mul P]

/-- Multiplies `acc` by the `n`-th power of `a`, by repeated squaring from the lowest bit on. -/
def powerOnto (acc a : P) (n : Nat) : P :=
  let next := if n % 2 = 1 then acc * a else acc
  if _h : n < 2 then next else powerOnto next (a * a) (n / 2)
termination_by n

def power [Div P] [OfNat P 1] (a : P) (n : Int) : P :=
  let p := powerOnto 1 a n.natAbs
  if n < 0 then 1 / p else p

def serial [OfNat P 1] (probabilities : List P) : P := probabilities.foldl (· * ·) 1

def parallel [Sub P] [OfNat P 1] (probabilities : List P) : P :=
  1 - serial (probabilities.map (1 - ·))

end Powers

/-- The nearest number from zero to one; what is no number stays as it is. -/
def clamp {P : Type} [LT P] [DecidableLT P] [OfNat P 0] [OfNat P 1] (p : P) : P :=
  if p < 0 then 0 else if 1 < p then 1 else p

end Survivability

/-- A requirement with the number of times that it is met. -/
structure Survivability (P : Type) where
  qualification : Iri
  minimum : Nat
  base : P
  redundancy : Nat
  deriving DecidableEq, Repr

namespace Survivability

variable {P : Type}

def create [LT P] [DecidableLT P] [OfNat P 0] [OfNat P 1] (qualification : Iri) (minimum : Nat)
    (base : P) (redundancy : Nat) : Survivability P :=
  ⟨qualification, minimum, clamp base, redundancy⟩

def increment (s : Survivability P) : Survivability P :=
  { s with redundancy := Count.next s.redundancy }

theorem increment_of_lt {s : Survivability P} (h : s.redundancy < Count.limit) :
    s.increment = { s with redundancy := s.redundancy + 1 } := by
  rw [increment, Count.next_of_lt h]

section Values

variable [Mul P] [Div P] [Sub P] [OfNat P 1]

def stage (s : Survivability P) : P := power s.base (Count.signed s.minimum)

def survival (s : Survivability P) : P := 1 - power (1 - s.stage) (Count.signed s.redundancy)

end Values

def render (s : Survivability Float) : String :=
  s!"ModelSurvivability: {s.qualification} (min: {s.minimum}, p: {Decimal.plain s.base}, " ++
    s!"redundancy: {s.redundancy}) --> {Decimal.plain s.survival}"

end Survivability

end RobotTeam
