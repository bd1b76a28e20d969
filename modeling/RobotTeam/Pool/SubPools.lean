import RobotTeam.Pool.Combination

/-!
The sub-pools of a pool, enumerated like the numbers of an odometer: one wheel a model, the first
model turning fastest, and each wheel running from zero to the model's count.
-/

namespace RobotTeam

/-- A wheel of the odometer: a model, the digit it shows and the largest digit it has. -/
structure Wheel where
  model : Iri
  digit : Nat
  most : Nat
  deriving DecidableEq, Repr

namespace SubPools

def start (p : Pool) : List Wheel :=
  p.entries.map fun e => ⟨e.1, 0, e.2⟩

/-- Moves on by one. There is no successor once every wheel shows its largest digit. -/
def next? : List Wheel → Option (List Wheel)
  | [] => none
  | w :: rest =>
    if w.digit < w.most then some ({ w with digit := w.digit + 1 } :: rest)
    else (next? rest).map ({ w with digit := 0 } :: ·)

def shown (wheels : List Wheel) : Pool :=
  Pool.ofEntries (wheels.map fun w => (w.model, w.digit))

/-- The first `n` positions from here on, and the position after them. -/
def run (n : Nat) (position : Option (List Wheel)) : List (List Wheel) × Option (List Wheel) :=
  go n position []
where
  go : Nat → Option (List Wheel) → List (List Wheel) → List (List Wheel) × Option (List Wheel)
    | 0, position, seen => (seen.reverse, position)
    | _ + 1, none, seen => (seen.reverse, none)
    | n + 1, some wheels, seen => go n (next? wheels) (wheels :: seen)

def totalLimit : Nat := 0x100000000000000000000000000000000

def total? (p : Pool) : Option Nat :=
  p.entries.foldlM
    (fun acc e => if acc * (e.2 + 1) < totalLimit then some (acc * (e.2 + 1)) else none) 1

def number (p : Pool) : Nat := Count.product (p.entries.map fun e => e.2 + 1)

end SubPools

namespace Pool

def firstSubPools (p : Pool) (n : Nat) : List Pool × Bool :=
  let (shown, last) := SubPools.run n (some (SubPools.start p))
  (shown.map SubPools.shown, last.isNone)

def subPools (p : Pool) : List Pool := (p.firstSubPools (SubPools.number p)).1

def subCombinations (p : Pool) : List Combination := p.subPools.map Pool.toCombination

end Pool

end RobotTeam
