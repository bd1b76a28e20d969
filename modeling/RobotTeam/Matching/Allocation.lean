import RobotTeam.Matching.Script

/-!
Matching by search. Every requirement receives exactly its minimum, split over the compatible bounds
on hand; earlier slots get as much as they can, and a split is revised when a later requirement cannot
be served. The outcome is a matrix with a row of shares for each requirement.
-/

namespace RobotTeam

/-- A requirement as the search sees it: what it needs, and which slots can serve it. -/
structure Demand where
  need : Nat
  fits : List Bool
  deriving DecidableEq, Repr

namespace Demand

def supply : List Bool → List Nat → Nat
  | fit :: fits, held :: rest => (if fit then held else 0) + supply fits rest
  | _, _ => 0

def tryShares {α : Type} (attempt : Nat → Option α) (least : Nat) : Nat → Option α
  | 0 => attempt least
  | extra + 1 =>
    match attempt (least + (extra + 1)) with
    | some found => some found
    | none => tryShares attempt least extra

/-- Splits `need` over the slots, the largest shares first, and goes on with what the slots then
hold. Shares that leave more than the later slots can give are not tried. -/
def split {α : Type} (goOn : List Nat → List Nat → Option α) (shares kept : List Nat) :
    Nat → List Bool → List Nat → Option α
  | need, fit :: fits, held :: rest =>
    let most := if fit then min need held else 0
    let least := need - supply fits rest
    if most < least then none
    else
      tryShares
        (fun share => split goOn (share :: shares) ((held - share) :: kept) (need - share) fits rest)
        least (most - least)
  | need, _, rest => if need = 0 then goOn shares.reverse (kept.reverse ++ rest) else none

def allocate : List Demand → List Nat → Option (List (List Nat))
  | [], _ => some []
  | d :: rest, held =>
    split (fun row left => (allocate rest left).map (row :: ·)) [] [] d.need d.fits held

end Demand

structure Allocation where
  property : Iri
  deriving DecidableEq, Repr

namespace Allocation

section

variable {ω : Type} [Ontology ω]

def demand (o : ω) (available : List Bound) (required : Bound) : Demand :=
  ⟨required.min, available.map fun b => Ontology.isSubclass o b.model required.model⟩

def assignmentsOf (available : List Bound) (required : Bound) (row : List Nat) : List Assignment :=
  ((available.zip row).filter (0 < ·.2)).map fun e => ⟨required.model, e.1.model, e.2⟩

def solve (o : ω) (required available : List Bound) : Option Solution :=
  (Demand.allocate (required.map (demand o available)) (available.map Bound.max)).map fun rows =>
    ⟨((required.zip rows).map fun e => assignmentsOf available e.1 e.2).flatten⟩

def capabilities (a : Allocation) (o : ω) (c : Combination) : List Bound :=
  let sums := c.toPool.entries.foldl
    (fun sums e =>
      (Ontology.restrictions o e.1 a.property none).foldl
        (fun sums r =>
          if r.isObject && r.kind.boundsAs .max then
            sums.insert r.qualification
              (Count.addCapped (sums.getD r.qualification 0) (Count.mulCapped r.cardinality e.2))
          else sums)
        sums)
    (∅ : Std.ExtTreeMap Iri Nat)
  sums.toList.map fun e => ⟨e.1, 0, e.2⟩

/-- A service without requirements is not supported by anything, and neither is one whose requirements
cannot be merged. -/
def supports (a : Allocation) (o : ω) (available : List Bound) (service : Iri) : Bool :=
  match Ontology.restrictions o service a.property none with
  | [] => false
  | restrictions =>
    match Bound.merge restrictions with
    | .ok required => (solve o required available).isSome
    | .error _ => false

instance : Matcher Allocation ω where
  supported a o c services := services.filter (a.supports o (a.capabilities o c))
  solve a o required available := (solve o required available, a)

end

end Allocation

end RobotTeam
