import RobotTeam.Proofs.Pool.Conversion

/-! Differences between pools. The difference counts for each model how many instances have to be added,
whichever of the pools stores the model, and differences along a chain of pools add up. There is a pool
of what has to be added exactly when nothing has to be taken away. -/

namespace RobotTeam.Delta

theorem count_set (d : Delta) (model : Iri) (n : ℤ) (m : Iri) :
    (d.set model n).count m = if model = m then n else d.count m := by
  rw [count, set, Std.ExtTreeMap.getD_insert]
  by_cases h : model = m
  · rw [if_pos (Std.LawfulEqCmp.compare_eq_iff_eq.mpr h), if_pos h]
  · rw [if_neg (mt Std.LawfulEqCmp.compare_eq_iff_eq.mp h), if_neg h]
    rfl

theorem count_ofPool (p : Pool) (m : Iri) : (ofPool p).count m = p.count m := by
  rw [count, ofPool, Pool.count, Std.ExtTreeMap.getD_eq_getD_getElem?, Std.ExtTreeMap.getElem?_map,
    Std.ExtTreeMap.getD_eq_getD_getElem?]
  cases p.counts[m]? <;> rfl

/-- Entries are taken off one after the other. -/
theorem count_takeOff (entries : List (Iri × ℕ)) (d : Delta) (m : Iri) :
    (entries.foldl (fun d e => d.set e.1 (d.count e.1 - e.2)) d).count m =
      d.count m - Pool.amount entries m := by
  induction entries generalizing d with
  | nil => exact (Int.sub_zero _).symm
  | cons e rest ih =>
    rw [List.foldl_cons, ih, count_set, Pool.amount_cons]
    by_cases h : e.1 = m
    · subst h
      rw [if_pos rfl, if_pos rfl]
      omega
    · rw [if_neg h, if_neg h, Nat.zero_add]

section Between

variable {old new : Pool}

theorem count_between (old new : Pool) (m : Iri) :
    (between old new).count m = new.count m - old.count m := by
  rw [between, count_takeOff, count_ofPool, Pool.amount_entries]

theorem isNegative_between : (between old new).isNegative = true ↔ ¬old.Within new := by
  simp only [isNegative_iff, Pool.within_iff, count_between, not_forall]
  refine exists_congr fun m => ?_
  omega

/-- Where counts fit, what is missing is all that can be wrong with a difference. -/
theorem fits_between {m : Iri} (counted : new.count m ≤ Count.limit) :
    Fits ((between old new).count m) ↔ old.count m ≤ new.count m := by
  rw [count_between, Fits]
  omega

variable (counted : ∀ m, new.count m ≤ Count.limit)

include counted

theorem exists_toPool_between_iff : (∃ p, (between old new).toPool = .ok p) ↔ old.Within new := by
  rw [Pool.within_iff]
  constructor
  · rintro ⟨p, converted⟩ m
    have made := ((toPool_ok_iff.mp converted).2 m).1
    rw [count_between] at made
    omega
  · intro within
    obtain ⟨p, converted, -⟩ := toPool_of_fits fun m => (fits_between (counted m)).mpr (within m)
    exact ⟨p, converted⟩

theorem toPool_between_iff {p : Pool} : (between old new).toPool = .ok p ↔
    p.NoZeros ∧ ∀ m, old.count m + p.count m = new.count m := by
  rw [toPool_ok_iff]
  refine and_congr_right fun _ => forall_congr' fun m => ?_
  have most := counted m
  rw [count_between]
  omega

theorem refuses_between_iff {m : Iri} : (between old new).Refuses m ↔ new.count m < old.count m ∧
    ∀ other, new.count other < old.count other → (compare m other).isLE := by
  have missing : ∀ other, ¬Fits ((between old new).count other) ↔
      new.count other < old.count other := by
    intro other
    rw [fits_between (counted other), not_le]
  constructor
  · rintro ⟨unfit, first⟩
    exact ⟨(missing m).mp unfit, fun other less => first other ((missing other).mpr less)⟩
  · rintro ⟨less, first⟩
    exact ⟨(missing m).mpr less, fun other unfit => first other ((missing other).mp unfit)⟩

end Between

/-- Differences count what has to be added, and along a chain of pools they add up. A difference is
negative exactly if the one pool is not within the other. If it is, the difference becomes the pool that
makes it up; if not, the first model that is missing is reported. -/
theorem between_exact (a b c : Pool) (counted : ∀ e ∈ b.entries, e.2 ≤ Count.limit) :
    (∀ m, (between a b).count m = b.count m - a.count m) ∧
    (∀ m, (between a b).count m + (between b c).count m = (between a c).count m) ∧
    ((between a b).isNegative = true ↔ ¬a.Within b) ∧
    ((∃ r, (between a b).toPool = .ok r) ↔ a.Within b) ∧
    (∀ r, (between a b).toPool = .ok r ↔
      r.NoZeros ∧ ∀ m, a.count m + r.count m = b.count m) ∧
    ∀ error, (between a b).toPool = .error error ↔ ∃ m, b.count m < a.count m ∧
      (∀ other, b.count other < a.count other → (compare m other).isLE) ∧
      error = .negativeCount m ((b.count m : ℤ) - a.count m) := by
  have counted := Pool.count_le_iff.mpr counted
  refine ⟨count_between a b, ?_, isNegative_between, exists_toPool_between_iff counted,
    fun r => toPool_between_iff counted, ?_⟩
  · intro m
    simp only [count_between]
    omega
  · intro error
    simp only [toPool_error_iff, refuses_between_iff counted, count_between, and_assoc]

/-- To an arm and a stored zero of hooks, three arms and as many hooks as there can be have to be added.
The other way round, arms are the first that are missing. -/
theorem between_exact_arms :
    let arm : Iri := ⟨"http://team#Arm"⟩
    let hook : Iri := ⟨"http://team#Hook"⟩
    let few : Pool := ⟨Std.ExtTreeMap.ofList [(arm, 1), (hook, 0)]⟩
    let many : Pool := ⟨Std.ExtTreeMap.ofList [(arm, 4), (hook, Count.limit)]⟩
    (∀ e ∈ few.entries ++ many.entries, e.2 ≤ Count.limit) ∧
    (∃ r, (between few many).toPool = .ok r ∧ r.NoZeros ∧ r.count arm = 3 ∧
      r.count hook = Count.limit) ∧
    (between many few).toPool = .error (.negativeCount arm (-3)) ∧
      ∀ other, few.count other < many.count other → (compare arm other).isLE := by
  intro arm hook few many
  have counted : ∀ e ∈ few.entries ++ many.entries, e.2 ≤ Count.limit := by decide
  obtain ⟨-, -, -, exists_iff, made_iff, -⟩ :=
    between_exact few many few fun e he => counted e (List.mem_append_right _ he)
  obtain ⟨-, -, -, -, -, refused_iff⟩ :=
    between_exact many few many fun e he => counted e (List.mem_append_left _ he)
  have refused : (between many few).toPool = .error (.negativeCount arm (-3)) := by decide
  refine ⟨counted, ?_, refused, ?_⟩
  · obtain ⟨r, made⟩ := exists_iff.mpr (by decide)
    obtain ⟨zeros, sums⟩ := (made_iff r).mp made
    have arms := sums arm
    have hooks := sums hook
    rw [show few.count arm = 1 by decide, show many.count arm = 4 by decide] at arms
    rw [show few.count hook = 0 by decide, show many.count hook = Count.limit by decide] at hooks
    exact ⟨r, made, zeros, by omega, by omega⟩
  · obtain ⟨m, -, first, same⟩ := (refused_iff _).mp refused
    rw [(QueryError.negativeCount.inj same).1]
    exact first

end RobotTeam.Delta
