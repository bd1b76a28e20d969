import RobotTeam.Mapping
import Mathlib.Data.List.Nodup

/-! Insertion into a mapping. It succeeds for combinations within the pool and changes what is
recorded for the one combination only, so that a list of different combinations is recorded entry by
entry. -/

namespace RobotTeam.Mapping

variable {m : Mapping} {c : Combination} {functions : List Iri}

theorem insert_ok (functions : List Iri) (within : c.toPool.Within m.pool) :
    ∃ m', m.insert c functions = .ok m' ∧ m'.pool = m.pool ∧
      m'.functions = m.functions.insert c functions :=
  ⟨_, if_pos within, rfl, rfl⟩

theorem functionsOf?_of_insert {m' : Mapping} (h : m'.functions = m.functions.insert c functions)
    (d : Combination) : m'.functionsOf? d = if c = d then some functions else m.functionsOf? d := by
  rw [functionsOf?, h, Std.ExtTreeMap.getElem?_insert]
  by_cases hd : c = d
  · rw [if_pos hd, if_pos (Std.LawfulEqCmp.compare_eq_iff_eq.mpr hd)]
  · rw [if_neg hd, if_neg (mt Std.LawfulEqCmp.compare_eq_iff_eq.mp hd)]
    rfl

theorem size_of_insert {m' : Mapping} (h : m'.functions = m.functions.insert c functions)
    (fresh : m.functionsOf? c = none) : m'.size = m.size + 1 := by
  have absent : m.functions.contains c = false := by
    rw [Std.ExtTreeMap.contains_eq_isSome_getElem?, show m.functions[c]? = none from fresh]
    rfl
  rw [size, h, Std.ExtTreeMap.size_insert, absent]
  rfl

/-- Different combinations within the pool can all be recorded. -/
theorem foldlM_insert (record : Combination → List Iri) {cs : List Combination}
    (different : cs.Nodup) (within : ∀ c ∈ cs, c.toPool.Within m.pool)
    (fresh : ∀ c ∈ cs, m.functionsOf? c = none) :
    ∃ m', cs.foldlM (fun (m : Mapping) c => m.insert c (record c)) m = Except.ok m' ∧
      m'.pool = m.pool ∧ m'.size = m.size + cs.length ∧
      ∀ c, m'.functionsOf? c = if c ∈ cs then some (record c) else m.functionsOf? c := by
  induction cs generalizing m with
  | nil => exact ⟨m, rfl, rfl, rfl, fun c => (if_neg List.not_mem_nil).symm⟩
  | cons c cs ih =>
    obtain ⟨hc, hcs⟩ := List.nodup_cons.mp different
    obtain ⟨mid, hmid, pool, functions⟩ := insert_ok (record c) (within c List.mem_cons_self)
    have lookup := functionsOf?_of_insert functions
    have size := size_of_insert functions (fresh c List.mem_cons_self)
    have within' : ∀ d ∈ cs, d.toPool.Within mid.pool := by
      intro d hd
      rw [pool]
      exact within d (List.mem_cons_of_mem c hd)
    have fresh' : ∀ d ∈ cs, mid.functionsOf? d = none := by
      intro d hd
      have hne : c ≠ d := fun e => hc (e ▸ hd)
      rw [lookup, if_neg hne]
      exact fresh d (List.mem_cons_of_mem c hd)
    obtain ⟨m', hm', pool', size', lookup'⟩ := ih hcs within' fresh'
    refine ⟨m', ?_, pool'.trans pool, ?_, ?_⟩
    · rw [List.foldlM_cons, hmid]
      exact hm'
    · rw [size', size, List.length_cons]
      omega
    · intro d
      rw [lookup', lookup]
      by_cases hd : d ∈ cs
      · rw [if_pos hd, if_pos (List.mem_cons_of_mem c hd)]
      · by_cases e : c = d
        · subst e
          rw [if_neg hd, if_pos rfl, if_pos List.mem_cons_self]
        · rw [if_neg hd, if_neg e, if_neg]
          exact fun h => (List.mem_cons.mp h).elim (fun h => e h.symm) hd

end RobotTeam.Mapping
