import RobotTeam.Proofs.Mapping.Indices

/-! What insertions make of a mapping, whatever their order and whether or not they succeed. Every
combination on record fits into the pool, the two directions tell the same, no service has an empty
list, and of each combination the latest entry that was accepted is on record. -/

namespace RobotTeam.Mapping

abbrev Entry := Combination × List Iri

structure Journal where
  mapping : Mapping
  accepted : List Entry

namespace Journal

def record (j : Journal) (e : Entry) : Journal :=
  match j.mapping.insert e.1 e.2 with
  | .ok m => ⟨m, e :: j.accepted⟩
  | .error _ => j

def ofEntries (pool : Pool) (entries : List Entry) : Journal :=
  entries.foldl record ⟨empty pool, []⟩

end Journal

def NoneEmpty (supporters : Std.ExtTreeMap Iri (Array Combination)) : Prop :=
  ∀ f : Iri, supporters[f]? ≠ some #[]

section Supporters

variable {supporters : Std.ExtTreeMap Iri (Array Combination)} {c : Combination} {f : Iri}

theorem NoneEmpty.dropSupporter (h : NoneEmpty supporters) :
    NoneEmpty (dropSupporter c supporters f) := by
  intro g
  unfold Mapping.dropSupporter
  rw [Std.ExtTreeMap.getElem?_alter]
  split
  · cases supporters[f]? with
    | none => simp
    | some list =>
      dsimp only
      split
      · simp
      · next some =>
        intro e
        rw [Option.some.injEq] at e
        rw [e] at some
        exact some rfl
  · exact h g

theorem NoneEmpty.addSupporter (h : NoneEmpty supporters) :
    NoneEmpty (addSupporter c supporters f) := by
  intro g
  unfold Mapping.addSupporter
  rw [Std.ExtTreeMap.getElem?_alter]
  split
  · simp
  · exact h g

theorem NoneEmpty.insert {m m' : Mapping} {functions : List Iri} (h : NoneEmpty m.supporters)
    (done : m.insert c functions = .ok m') : NoneEmpty m'.supporters := by
  unfold Mapping.insert at done
  split at done
  · cases done
    have retracted : NoneEmpty ((m.functions.getD c []).foldl (Mapping.dropSupporter c) m.supporters) :=
      List.foldlRecOn _ _ h fun _ before _ _ => before.dropSupporter
    exact List.foldlRecOn _ _ retracted fun _ before _ _ => before.addSupporter
  · cases done

end Supporters

/-- An insertion succeeds exactly for combinations that fit into the pool. -/
theorem insert_cases (m : Mapping) (c : Combination) (functions : List Iri) :
    (c.toPool.Within m.pool ∧ ∃ m', m.insert c functions = .ok m' ∧ m'.pool = m.pool ∧
      m'.functions = m.functions.insert c functions) ∨
    (¬c.toPool.Within m.pool ∧ m.insert c functions = .error (.invalidArgument (.outsidePool c))) := by
  by_cases within : c.toPool.Within m.pool
  · exact .inl ⟨within, insert_ok functions within⟩
  · exact .inr ⟨within, if_neg within⟩

namespace Journal

variable {pool : Pool} {j : Journal}

structure Kept (pool : Pool) (j : Journal) : Prop where
  pool_eq : j.mapping.pool = pool
  within : ∀ c ∈ j.mapping.combinations, c.toPool.Within pool
  inStep : j.mapping.InStep
  noneEmpty : NoneEmpty j.mapping.supporters
  functionsOf_eq : ∀ c, j.mapping.functionsOf? c = j.accepted.lookup c

theorem kept_empty (pool : Pool) : Kept pool ⟨empty pool, []⟩ where
  pool_eq := rfl
  within := by simp [combinations, empty]
  inStep := inStep_empty pool
  noneEmpty := by simp [NoneEmpty, empty]
  functionsOf_eq := by simp [functionsOf?, empty]

theorem Kept.record (h : Kept pool j) (e : Entry) : Kept pool (j.record e) := by
  obtain ⟨c, functions⟩ := e
  unfold Journal.record
  rcases j.mapping.insert_cases c functions with ⟨within, m, done, samePool, lookup⟩ | ⟨-, refused⟩
  · simp only [done]
    refine ⟨samePool.trans h.pool_eq, ?_, h.inStep.insert done, h.noneEmpty.insert done, ?_⟩
    -- Fitting into the pool was checked for this entry and holds for those that were there before.
    · intro d hd
      rw [combinations, lookup, Std.ExtTreeMap.mem_keys, Std.ExtTreeMap.mem_insert] at hd
      rcases hd with same | known
      · obtain rfl := Std.LawfulEqCmp.eq_of_compare same
        exact h.pool_eq ▸ within
      · exact h.within d (Std.ExtTreeMap.mem_keys.mpr known)
    · intro d
      rw [functionsOf?_of_insert lookup, h.functionsOf_eq, List.lookup_cons]
      by_cases same : c = d
      · simp [same]
      · rw [if_neg same, beq_false_of_ne (Ne.symm same)]
  · simp only [refused]
    exact h

theorem kept_ofEntries (pool : Pool) (entries : List Entry) : Kept pool (ofEntries pool entries) :=
  List.foldlRecOn _ _ (kept_empty pool) fun _ before e _ => before.record e

/-- What supports a service is on record. -/
theorem Kept.supporters_within (h : Kept pool j) {f : Iri} {cs : List Combination}
    (found : j.mapping.combinationsOf? f = some cs) : ∀ c ∈ cs, c.toPool.Within pool := by
  intro c hc
  have supports : c ∈ listing j.mapping.supporters f := by
    rw [listing, show j.mapping.supporters[f]?.map Array.toList = some cs from found]
    exact hc
  apply h.within
  rw [combinations, Std.ExtTreeMap.mem_keys, Std.ExtTreeMap.mem_iff_isSome_getElem?]
  have functions := h.inStep.mem_iff.mp supports
  rw [listed, functionsOf?] at functions
  cases e : j.mapping.functions[c]? with
  | none => simp [e] at functions
  | some _ => rfl

theorem Kept.combinationsOf_ne_nil (h : Kept pool j) (f : Iri) :
    j.mapping.combinationsOf? f ≠ some [] := by
  intro none
  obtain ⟨list, found, empty⟩ := Option.map_eq_some_iff.mp none
  rw [Array.toList_eq_nil_iff] at empty
  subst empty
  exact absurd found (h.noneEmpty f)

/-- Whatever insertions were tried, both directions are right about those that succeeded, and the next
one succeeds if its combination fits into the pool and changes nothing at all if it does not. -/
theorem ofEntries_indices (pool : Pool) (entries : List Entry) :
    let j := ofEntries pool entries
    (∀ c ∈ j.mapping.combinations, c.toPool.Within pool) ∧
    (∀ f cs, j.mapping.combinationsOf? f = some cs → ∀ c ∈ cs, c.toPool.Within pool) ∧
    (∀ c f, ((j.mapping.functionsOf? c).getD []).count f =
      ((j.mapping.combinationsOf? f).getD []).count c) ∧
    (∀ f, j.mapping.combinationsOf? f ≠ some []) ∧
    (∀ c, j.mapping.functionsOf? c = j.accepted.lookup c) ∧
    ∀ c functions,
      (c.toPool.Within pool → ∃ m, j.mapping.insert c functions = .ok m ∧
        ofEntries pool (entries ++ [(c, functions)]) = ⟨m, (c, functions) :: j.accepted⟩) ∧
      (¬c.toPool.Within pool →
        j.mapping.insert c functions = .error (.invalidArgument (.outsidePool c)) ∧
        ofEntries pool (entries ++ [(c, functions)]) = j) := by
  intro j
  have kept : Kept pool j := kept_ofEntries pool entries
  refine ⟨kept.within, fun f cs found => kept.supporters_within found,
    fun c f => (kept.inStep c f).symm, kept.combinationsOf_ne_nil, kept.functionsOf_eq, ?_⟩
  intro c functions
  have next : ofEntries pool (entries ++ [(c, functions)]) = j.record (c, functions) := by
    rw [ofEntries, List.foldl_append]
    rfl
  rw [next, record]
  rcases j.mapping.insert_cases c functions with ⟨within, m, done, -, -⟩ | ⟨outside, refused⟩
  · rw [kept.pool_eq] at within
    refine ⟨fun _ => ⟨m, done, ?_⟩, fun outside => absurd within outside⟩
    simp only [done]
  · rw [kept.pool_eq] at outside
    refine ⟨fun within => absurd within outside, fun _ => ⟨refused, ?_⟩⟩
    simp only [refused]

end Journal

end RobotTeam.Mapping
