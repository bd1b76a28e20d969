import RobotTeam.Proofs.FactBase.Hierarchy
import RobotTeam.Proofs.Matching.Contention
import RobotTeam.Proofs.Matching.Shortage
import Mathlib.Order.Bounds.Defs

/-! Full redundancy: how many rounds there are against how often the requirements can be served
together. The rounds never exceed that number. They reach it for all counts exactly where no earlier
class on hand that competes with a later one serves a requirement that the later one does not. What is
counted of the rounds is right as long as a counter can show it. -/

namespace RobotTeam

namespace Problem

variable {m n : ℕ} {p : Problem m n} {k : ℕ}

theorem Runs.isGreatest_iff (h : p.Runs k) :
    IsGreatest {l | (p.times l).Solvable} k ↔ ¬(p.times (k + 1)).Solvable := by
  constructor
  · rintro ⟨-, top⟩ more
    exact absurd (top more) (Nat.not_succ_le_self k)
  · intro stop
    refine ⟨h.solvable, ?_⟩
    intro l hl
    by_contra hlt
    exact stop (hl.times_le (not_le.mp hlt))

/-- Bounds in a list and bounds given by their places make the same problem. -/
theorem ofBounds_get_ofFn {ω : Type} [Ontology ω] (o : ω) (P : ∀ m n : ℕ, Problem m n → Prop)
    (required : Fin m → Bound) (available : Fin n → Bound) :
    P _ _ (ofBounds o (List.ofFn required).get (List.ofFn available).get) ↔
      P m n (ofBounds o required available) := by
  have cast : ∀ m' n' (hm : m' = m) (hn : n' = n),
      P m' n' (ofBounds o (fun i => required (i.cast hm)) fun j => available (j.cast hn)) ↔
        P m n (ofBounds o required available) := by
    rintro m' n' rfl rfl
    rfl
  have get : ∀ {l : ℕ} (b : Fin l → Bound),
      (List.ofFn b).get = fun i => b (i.cast List.length_ofFn) := by
    intro l b
    funext i
    rw [List.get_ofFn]
  rw [get, get]
  exact cast _ _ _ _

end Problem

namespace Redundancy

open Problem

variable {ω : Type} [Ontology ω]

/-- The rounds made from the start. -/
def rounds (o : ω) (s : Session Allocation) (required available : List Bound) : Rounds :=
  ((matchRounds required 0 available).run o s).1

/-- What is counted is the greatest number of times that the requirements can be served together from
what is on hand. -/
def CountsAll (o : ω) (s : Session Allocation) (required available : List Bound) : Prop :=
  IsGreatest {k | ((ofBounds o required.get available.get).times k).Solvable}
    (rounds o s required available).count

structure Stocked (wanted onHand : List Iri) (required available : List Bound) : Prop where
  required_models : required.map Bound.model = wanted
  available_models : available.map Bound.model = onHand
  positive : ∀ b ∈ required, 0 < b.min ∧ b.min ≤ Count.limit
  bounded : ∀ b ∈ available, b.max < Bound.unbounded

/-- For all counts of the classes for which a counter can show the right number, it does. -/
def CountsAlways (o : ω) (s : Session Allocation) (wanted onHand : List Iri) : Prop :=
  ∀ required available, Stocked wanted onHand required available →
    ¬(ofBounds o required.get available.get).Overruns → CountsAll o s required available

/-- Where two classes on hand serve a common requirement, the later one serves every requirement
that the earlier one serves. -/
def Harmless (o : ω) (wanted onHand : List Iri) : Prop :=
  onHand.Pairwise fun a b => ∀ g ∈ wanted, Ontology.isSubclass o a g = true →
    Ontology.isSubclass o b g = true → ∀ c ∈ wanted, Ontology.isSubclass o a c = true →
      Ontology.isSubclass o b c = true

variable (o : ω) (s : Session Allocation) {wanted onHand : List Iri}
  {required available : List Bound}

theorem rounds_runs (stocked : Stocked wanted onHand required available) (nonempty : wanted ≠ [])
    (distinct : onHand.Nodup) : (rounds o s required available).fault = none ∧
      ∃ k, (ofBounds o required.get available.get).Runs k ∧
        (rounds o s required available).count = Count.wrapped k := by
  have asked : required ≠ [] := by
    rintro rfl
    exact nonempty stocked.required_models.symm
  have asks := exists_need_pos asked fun b hb => (stocked.positive b hb).1
  rw [← stocked.available_models] at distinct
  obtain ⟨k, -, rest, hk, -, -, -, hrun⟩ := run_matchRounds_spent o required.get asks s
    available.get (injective_model distinct)
  rw [List.ofFn_get, List.ofFn_get] at hrun
  rw [rounds, hrun]
  exact ⟨rfl, k, hk, rfl⟩

theorem orderly_of_harmless (stocked : Stocked wanted onHand required available)
    (h : Harmless o wanted onHand) : (ofBounds o required.get available.get).Orderly := by
  have mem : ∀ i : Fin required.length, (required.get i).model ∈ wanted := by
    intro i
    rw [← stocked.required_models]
    exact List.mem_map_of_mem (List.get_mem _ _)
  rw [Harmless, ← stocked.available_models, List.pairwise_map, List.pairwise_iff_get] at h
  intro i a b hab ha hb k hk
  exact h a b hab _ (mem i) ha hb _ (mem k) hk

theorem not_solvable_of_unserved (stocked : Stocked wanted onHand required available) {g : Iri}
    (hg : g ∈ wanted) (unserved : ∀ a ∈ onHand, Ontology.isSubclass o a g = false) :
    ¬(ofBounds o required.get available.get).Solvable := by
  rintro ⟨x, hx⟩
  rw [← stocked.required_models] at hg
  obtain ⟨b, hb, rfl⟩ := List.mem_map.mp hg
  obtain ⟨i, rfl⟩ := List.get_of_mem hb
  obtain ⟨j, hj⟩ := hx.exists_share (stocked.positive _ hb).1
  have fits : Ontology.isSubclass o (available.get j).model (required.get i).model = true :=
    hx.fits i j hj
  rw [unserved _ (stocked.available_models ▸ List.mem_map_of_mem (List.get_mem _ _))] at fits
  cases fits

/-- Counts for which the rounds fall short, where an earlier class on hand has a rival. -/
theorem exists_not_countsAll (nonempty : wanted ≠ []) (distinct : onHand.Nodup)
    (few : wanted.length * onHand.length ≤ 2 ^ 27) (rival : ¬Harmless o wanted onHand)
    (served : ∀ g ∈ wanted, ∃ a ∈ onHand, Ontology.isSubclass o a g = true) :
    ¬CountsAlways o s wanted onHand := by
  let fits : Fin wanted.length → Fin onHand.length → Prop :=
    fun i j => Ontology.isSubclass o (onHand.get j) (wanted.get i) = true
  have served : ∀ i, ∃ j, fits i j := by
    intro i
    obtain ⟨a, ha, h⟩ := served (wanted.get i) (List.get_mem _ _)
    obtain ⟨j, rfl⟩ := List.get_of_mem ha
    exact ⟨j, h⟩
  have disorder : ¬∀ i a b, a < b → fits i a → fits i b → ∀ k, fits k a → fits k b := by
    intro ordered
    refine rival (List.pairwise_iff_get.mpr fun a b hab g hg ha hb c hc hac => ?_)
    obtain ⟨i, rfl⟩ := List.get_of_mem hg
    obtain ⟨k, rfl⟩ := List.get_of_mem hc
    exact ordered i a b hab ha hb k hac
  obtain ⟨need, held, hneed, hheld, twice, most, once⟩ := exists_contested fits served disorder
  let r : Fin wanted.length → Bound := fun i => ⟨wanted.get i, need i, need i⟩
  let a : Fin onHand.length → Bound := fun j => ⟨onHand.get j, 0, held j⟩
  have small : 18 * (wanted.length * onHand.length) + 2 < 4294967295 := by omega
  have stocked : Stocked wanted onHand (List.ofFn r) (List.ofFn a) := by
    refine ⟨?_, ?_, ?_, ?_⟩
    · apply List.ext_getElem <;> simp [r]
    · apply List.ext_getElem <;> simp [a]
    · intro b hb
      obtain ⟨i, rfl⟩ := (List.mem_ofFn' _ _).mp hb
      exact ⟨(hneed i).1, ((hneed i).2.trans_lt small).le⟩
    · intro b hb
      obtain ⟨j, rfl⟩ := (List.mem_ofFn' _ _).mp hb
      exact (hheld j).trans_lt small
  have times := fun l => ofBounds_get_ofFn o (fun m n p => (p.times l).Solvable) r a
  have fit : ¬(ofBounds o (List.ofFn r).get (List.ofFn a).get).Overruns := by
    intro more
    exact absurd (most _ ((times _).mp more)) (by decide)
  obtain ⟨-, k, runs, count⟩ := rounds_runs o s stocked nonempty distinct
  rw [Count.wrapped_of_le (runs.le_limit fit)] at count
  have less := once _ ((ofBounds_get_ofFn o (fun m n p => p.Runs _) r a).mp runs)
  intro always
  have greatest := (always _ _ stocked fit).2 ((times 2).mpr twice)
  rw [count] at greatest
  omega

theorem countsAlways_of_harmless (nonempty : wanted ≠ []) (distinct : onHand.Nodup)
    (h : Harmless o wanted onHand ∨ ∃ g ∈ wanted, ∀ a ∈ onHand, Ontology.isSubclass o a g = false) :
    CountsAlways o s wanted onHand := by
  intro required available stocked fit
  obtain ⟨-, k, runs, count⟩ := rounds_runs o s stocked nonempty distinct
  rw [CountsAll, count, Count.wrapped_of_le (runs.le_limit fit)]
  refine ⟨runs.solvable, ?_⟩
  intro l hl
  rcases h with harmless | ⟨g, hg, unserved⟩
  · exact runs.le_of_orderly (orderly_of_harmless o stocked harmless) hl
  · have stuck := not_solvable_of_unserved o stocked hg unserved
    cases l with
    | zero => exact Nat.zero_le _
    | succ l => exact absurd hl.of_times_succ stuck

/-- The rounds stop without a fault after canonical rounds. As long as a counter can show their number,
they are as many as possible exactly when one round more would leave some group of requirements short.
For classes in a given order they are as many as possible whatever the counts if no slot harms a later
one, or some class is not served at all; and unless there are very many classes, only then. -/
theorem countsAll_exact (nonempty : wanted ≠ []) (distinct : onHand.Nodup) :
    (∀ required available, Stocked wanted onHand required available →
      (rounds o s required available).fault = none ∧
      ∃ k, (ofBounds o required.get available.get).Runs k ∧
        (rounds o s required available).count = Count.wrapped k ∧
        (k ≤ Count.limit → (CountsAll o s required available ↔
          ∃ group, ((ofBounds o required.get available.get).times (k + 1)).Short group))) ∧
    ((Harmless o wanted onHand ∨ ∃ g ∈ wanted, ∀ a ∈ onHand, Ontology.isSubclass o a g = false) →
      CountsAlways o s wanted onHand) ∧
    (wanted.length * onHand.length ≤ 2 ^ 27 → CountsAlways o s wanted onHand →
      Harmless o wanted onHand ∨ ∃ g ∈ wanted, ∀ a ∈ onHand, Ontology.isSubclass o a g = false) := by
  refine ⟨?_, countsAlways_of_harmless o s nonempty distinct, ?_⟩
  · intro required available stocked
    obtain ⟨fault, k, runs, count⟩ := rounds_runs o s stocked nonempty distinct
    refine ⟨fault, k, runs, count, fun fit => ?_⟩
    rw [CountsAll, count, Count.wrapped_of_le fit, runs.isGreatest_iff]
    exact not_solvable_iff_short
  · intro few always
    by_contra hn
    push Not at hn
    obtain ⟨rival, served⟩ := hn
    refine exists_not_countsAll o s nonempty distinct few rival ?_ always
    intro g hg
    obtain ⟨a, ha, h⟩ := served g hg
    exact ⟨a, ha, by simpa using h⟩

section Parts

def arm : Iri := ⟨"http://team#Arm"⟩

def part : Iri := ⟨"http://team#Part"⟩

def parts : FactBase := (∅ : FactBase).addSuperclass arm part

def matching : Session Allocation := { matcher := ⟨⟨"http://team#has"⟩⟩ }

theorem above_arm : parts.above arm = [part] := by decide +kernel

theorem above_part : parts.above part = [] := by decide +kernel

theorem arm_below_part : Ontology.isSubclass parts arm part = true := by
  apply FactBase.isSubclass_of_above
  rw [above_arm]
  exact List.mem_singleton_self part

theorem part_not_below_arm : Ontology.isSubclass parts part arm = false := by
  rw [Bool.eq_false_iff, ne_eq, FactBase.isSubclass_of_above_nil above_part]
  decide

/-- Parts on hand before arms are counted in full, arms before parts are not. -/
theorem countsAll_parts : [arm, part] ≠ [] ∧ [part, arm].Nodup ∧ [arm, part].Nodup ∧
    CountsAlways parts matching [arm, part] [part, arm] ∧
    ¬CountsAlways parts matching [arm, part] [arm, part] := by
  have one : [part, arm].Nodup := by decide
  have two : [arm, part].Nodup := by decide
  refine ⟨by decide, one, two, ?_, ?_⟩
  · apply (countsAll_exact parts matching (by decide) one).2.1
    simp [Harmless, arm_below_part, part_not_below_arm, FactBase.isSubclass_refl]
  · intro always
    have harmless := (countsAll_exact parts matching (by decide) two).2.2 (by decide) always
    simp [Harmless, arm_below_part, part_not_below_arm, FactBase.isSubclass_refl] at harmless

/-- An arm and a part are wanted of two arms and two parts. The first round spends both arms. -/
theorem not_countsAll_parts :
    (rounds parts matching [⟨arm, 1, Bound.unbounded⟩, ⟨part, 1, Bound.unbounded⟩]
      [⟨arm, 0, 2⟩, ⟨part, 0, 2⟩]).count = 1 ∧
    ¬CountsAll parts matching [⟨arm, 1, Bound.unbounded⟩, ⟨part, 1, Bound.unbounded⟩]
      [⟨arm, 0, 2⟩, ⟨part, 0, 2⟩] := by
  have first : Allocation.solve parts [⟨arm, 1, Bound.unbounded⟩, ⟨part, 1, Bound.unbounded⟩]
      [⟨arm, 0, 2⟩, ⟨part, 0, 2⟩] = some ⟨[⟨arm, arm, 1⟩, ⟨part, arm, 1⟩]⟩ := by
    simp only [Allocation.solve, Allocation.demand, List.map_cons, List.map_nil,
      FactBase.isSubclass_refl, arm_below_part, part_not_below_arm]
    decide +kernel
  have uses : (Solution.mk [⟨arm, arm, 1⟩, ⟨part, arm, 1⟩]).consumed.isEmpty = false := by
    decide +kernel
  have left : (Solution.mk [⟨arm, arm, 1⟩, ⟨part, arm, 1⟩]).subtractFrom
      [⟨arm, 0, 2⟩, ⟨part, 0, 2⟩] = .ok [⟨arm, 0, 0⟩, ⟨part, 0, 2⟩] := by decide +kernel
  have second : Allocation.solve parts [⟨arm, 1, Bound.unbounded⟩, ⟨part, 1, Bound.unbounded⟩]
      [⟨arm, 0, 0⟩, ⟨part, 0, 2⟩] = none := by
    simp only [Allocation.solve, Allocation.demand, List.map_cons, List.map_nil,
      FactBase.isSubclass_refl, arm_below_part, part_not_below_arm]
    decide +kernel
  have one : (rounds parts matching [⟨arm, 1, Bound.unbounded⟩, ⟨part, 1, Bound.unbounded⟩]
      [⟨arm, 0, 2⟩, ⟨part, 0, 2⟩]).count = 1 := by
    rw [rounds, run_matchRounds_some parts matching 0 first uses left,
      run_matchRounds_none parts matching _ second]
    rfl
  refine ⟨one, ?_⟩
  rintro ⟨-, top⟩
  rw [one] at top
  suffices h : (2 : ℕ) ≤ 1 by omega
  refine top ⟨fun i j => if i.val = j.val then 2 else 0, ?_, ?_, ?_⟩
  · refine Fin.forall_fin_two.mpr ⟨?_, ?_⟩
    · exact Fin.forall_fin_two.mpr ⟨fun _ => FactBase.isSubclass_refl parts arm, fun h => absurd rfl h⟩
    · exact Fin.forall_fin_two.mpr ⟨fun h => absurd rfl h, fun _ => FactBase.isSubclass_refl parts part⟩
  · exact Fin.forall_fin_two.mpr ⟨rfl, rfl⟩
  · exact Fin.forall_fin_two.mpr ⟨le_refl 2, le_refl 2⟩

end Parts

end Redundancy

end RobotTeam
