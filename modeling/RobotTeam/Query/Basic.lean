import RobotTeam.Matching.Script
import RobotTeam.Query.Cache

/-!
Queries as trees of requests. A query either has its answer, or asks for a total, or hands a problem
to the matcher, and goes on with what it gets. Running a query serves totals from a cache and passes
the matcher's state along.
-/

namespace RobotTeam

inductive Query (α : Type) : Type where
  | done (answer : α)
  | total (key : TotalKey) (goOn : List Restriction → Query α)
  | assign (required available : List Bound) (goOn : Option Solution → Query α)

structure Session (μ : Type) where
  cache : Cache := ∅
  matcher : μ

namespace Query

def bind {α β : Type} : Query α → (α → Query β) → Query β
  | done answer, f => f answer
  | total key goOn, f => total key fun t => (goOn t).bind f
  | assign required available goOn, f => assign required available fun s => (goOn s).bind f

instance : Monad Query where
  pure := done
  bind := bind

def totalOf (key : TotalKey) : Query (List Restriction) := total key done

/-- Runs a query over an ontology. A total that is not in the cache is computed and put there. -/
def run {ω μ α : Type} [Ontology ω] [Matcher μ ω] (o : ω) :
    Query α → Session μ → α × Session μ
  | done answer, s => (answer, s)
  | total key goOn, s =>
    match s.cache.lookup? key with
    | some known => (goOn known).run o s
    | none =>
      let fresh := key.total o
      (goOn fresh).run o { s with cache := s.cache.insert key fresh }
  | assign required available goOn, s =>
    let (outcome, matcher) := Matcher.solve s.matcher o required available
    (goOn outcome).run o { s with matcher := matcher }

end Query

abbrev Attempt := ExceptT QueryError Query

end RobotTeam
