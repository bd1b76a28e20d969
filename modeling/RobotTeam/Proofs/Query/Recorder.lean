import RobotTeam.Query.Basic
import Mathlib.Data.Nat.Notation

/-! Writing down what a matcher is asked. A recorder answers as the matcher does that it consults, and
keeps every problem with the answer to it. A query takes no notice of being recorded. -/

namespace RobotTeam

structure Consultation where
  required : List Bound
  available : List Bound
  outcome : Option Solution
  deriving DecidableEq, Repr

structure Recorder (μ : Type) where
  matcher : μ
  consultations : List Consultation

variable {ω μ α : Type} [Ontology ω] [Matcher μ ω]

namespace Recorder

def solve (r : Recorder μ) (o : ω) (required available : List Bound) :
    Option Solution × Recorder μ :=
  let answer := Matcher.solve r.matcher o required available
  (answer.1, ⟨answer.2, r.consultations ++ [⟨required, available, answer.1⟩]⟩)

instance : Matcher (Recorder μ) ω where
  supported r := Matcher.supported r.matcher
  solve := solve

end Recorder

namespace Session

def recorded (s : Session μ) : Session (Recorder μ) := ⟨s.cache, ⟨s.matcher, []⟩⟩

def plain (s : Session (Recorder μ)) : Session μ := ⟨s.cache, s.matcher.matcher⟩

def consultations (s : Session (Recorder μ)) : List Consultation := s.matcher.consultations

theorem plain_recorded (s : Session μ) : s.recorded.plain = s := rfl

end Session

theorem Query.run_plain (o : ω) (q : Query α) (s : Session (Recorder μ)) :
    q.run o s.plain = ((q.run o s).1, (q.run o s).2.plain) := by
  induction q generalizing s with
  | done a => rfl
  | total key goOn ih =>
    have same : s.plain.cache = s.cache := rfl
    simp only [run, same]
    cases s.cache.lookup? key with
    | some known => exact ih known s
    | none => exact ih _ { s with cache := s.cache.insert key (key.total o) }
  | assign required available goOn ih =>
    exact ih _ { s with matcher := (s.matcher.solve o required available).2 }

end RobotTeam
