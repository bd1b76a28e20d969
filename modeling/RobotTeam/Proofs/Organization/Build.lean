import RobotTeam.Organization.Basic
import RobotTeam.Proofs.Mapping.Insertion
import RobotTeam.Proofs.Pool.SubPools

/-! Building the organization model of a team. It fails for pools that yield too many combinations
and for no other reason, and else the mapping holds what the matcher says of every combination that
the pool yields. -/

namespace RobotTeam.Organization

open SubPools

variable {ω μ : Type} [Ontology ω] [Matcher μ ω]

/-- The pool yields more combinations than the limit allows, or more than can be counted. -/
def TooMany (settings : Settings) (pool : Pool) (limit : ℕ) : Prop :=
  settings.maxCombinations = some limit ∧ (limit < number pool ∨ 2 ^ 128 ≤ number pool)

structure Exact (o : ω) (matcher : μ) (pool : Pool) (settings : Settings) (a : Organization ω) :
    Prop where
  same_ontology : a.ontology = o
  same_settings : a.settings = settings
  same_pool : a.pool = pool
  functionsOf : ∀ c, a.mapping.functionsOf? c = if c.Sorted ∧ c.toPool.Within pool then
    some (Matcher.supported matcher o c (servicesOf o settings)) else none
  size : a.mapping.size = number pool

theorem any_total? (pool : Pool) (limit : ℕ) : (total? pool).any (· ≤ limit) = true ↔
    ¬(limit < number pool ∨ 2 ^ 128 ≤ number pool) := by
  have most : totalLimit = 2 ^ 128 := rfl
  rw [total?_eq, most]
  by_cases h : number pool < 2 ^ 128
  · rw [if_pos h, Option.any_some, decide_eq_true_eq]
    omega
  · rw [if_neg h, Option.any_none]
    simp only [Bool.false_eq_true, false_iff, not_not]
    exact Or.inr (Nat.le_of_not_lt h)

theorem checkSize_ok {settings : Settings} {pool : Pool}
    (h : ¬∃ limit, TooMany settings pool limit) : checkSize settings pool = .ok () := by
  unfold checkSize
  cases e : settings.maxCombinations with
  | none => rfl
  | some limit => exact if_pos ((any_total? pool limit).mpr fun more => h ⟨limit, e, more⟩)

theorem checkSize_error {settings : Settings} {pool : Pool} {limit : ℕ}
    (h : TooMany settings pool limit) : checkSize settings pool =
      .error (.invalidArgument (.tooManyCombinations (total? pool) limit)) := by
  unfold checkSize
  rw [h.1]
  exact if_neg fun few => (any_total? pool limit).mp few h.2

theorem build_error (o : ω) (matcher : μ) {pool : Pool} {settings : Settings} {limit : ℕ}
    (h : TooMany settings pool limit) : build o matcher pool settings =
      .error (.invalidArgument (.tooManyCombinations (total? pool) limit)) := by
  rw [build, checkSize_error h]
  rfl

/-- Once the size has been checked, the combinations are recorded one after the other. -/
theorem build_eq (o : ω) (matcher : μ) {pool : Pool} {settings : Settings}
    (h : checkSize settings pool = .ok ()) : build o matcher pool settings =
      (pool.subCombinations.foldlM
        (fun (m : Mapping) c => m.insert c (Matcher.supported matcher o c (servicesOf o settings)))
        (Mapping.empty pool)).map fun m => ⟨o, settings, m⟩ := by
  rw [build, h]
  rfl

theorem build_ok (o : ω) (matcher : μ) {pool : Pool} {settings : Settings}
    (h : ¬∃ limit, TooMany settings pool limit) :
    ∃ a, build o matcher pool settings = .ok a ∧ Exact o matcher pool settings a := by
  have within : ∀ c ∈ pool.subCombinations, c.toPool.Within (Mapping.empty pool).pool :=
    fun c hc => (Pool.mem_subCombinations.mp hc).2
  have empty : ∀ c, (Mapping.empty pool).functionsOf? c = none :=
    fun c => Std.ExtTreeMap.getElem?_empty
  obtain ⟨m, hm, kept, size, lookup⟩ := Mapping.foldlM_insert
    (fun c => Matcher.supported matcher o c (servicesOf o settings)) pool.nodup_subCombinations
    within fun c _ => empty c
  refine ⟨⟨o, settings, m⟩, ?_, ⟨rfl, rfl, kept, ?_, ?_⟩⟩
  · rw [build_eq o matcher (checkSize_ok h), hm]
    rfl
  · intro c
    rw [lookup, empty]
    by_cases hc : c ∈ pool.subCombinations
    · rw [if_pos hc, if_pos (Pool.mem_subCombinations.mp hc)]
    · rw [if_neg hc, if_neg (mt Pool.mem_subCombinations.mpr hc)]
  · rw [size, Pool.length_subCombinations]
    exact Nat.zero_add _

/-- Only the limit makes building fail, and what is built holds every combination exactly once. -/
theorem build_exact (o : ω) (matcher : μ) (pool : Pool) (settings : Settings) :
    (∀ e, build o matcher pool settings = .error e ↔ ∃ limit, TooMany settings pool limit ∧
      e = .invalidArgument (.tooManyCombinations (total? pool) limit)) ∧
    ((∃ a, build o matcher pool settings = .ok a ∧ Exact o matcher pool settings a) ↔
      ¬∃ limit, TooMany settings pool limit) := by
  constructor
  · intro e
    constructor
    · intro h
      by_cases many : ∃ limit, TooMany settings pool limit
      · obtain ⟨limit, hl⟩ := many
        rw [build_error o matcher hl] at h
        cases h
        exact ⟨limit, hl, rfl⟩
      · obtain ⟨a, ha, -⟩ := build_ok o matcher many
        rw [ha] at h
        cases h
    · rintro ⟨limit, hl, rfl⟩
      exact build_error o matcher hl
  · constructor
    · rintro ⟨a, ha, -⟩ ⟨limit, hl⟩
      rw [build_error o matcher hl] at ha
      cases ha
    · exact build_ok o matcher

end RobotTeam.Organization
