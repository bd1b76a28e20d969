import RobotTeam.Proofs.Redundancy.Minimums
import RobotTeam.Proofs.Redundancy.SingleRequirement
import RobotTeam.Proofs.Survivability

/-! How the redundancy of a single requirement grows with what is on hand. An instance that completes
a round replaces `need - 1` stand-ins by a single one, so more resources may lower the redundancy as
soon as three instances are needed and there may be enough of them for two rounds. All this is about
resources whose number a counter can show. -/

namespace RobotTeam.Redundancy

variable {ω : Type} [Ontology ω] (o : ω)

/-- No class on hand has fewer instances than before. -/
def Grown (before after : List Restriction) : Prop :=
  ∀ a ∈ before, ∀ b ∈ after, a.qualification = b.qualification → a.most ≤ b.most

section Grown

variable {onHand : List Iri} {before after : List Restriction}

theorem highest_mono (stock : Stock onHand before) (stock' : Stock onHand after)
    (grown : Grown before after) (c : Iri) : Bound.highest before c ≤ Bound.highest after c := by
  refine Bound.le_highest_iff.mpr ⟨Bound.highest_le before c, ?_⟩
  rintro b hb rfl
  have named : b.qualification ∈ before.map Restriction.qualification :=
    (stock.classes.trans stock'.classes.symm).mem_iff.mpr (List.mem_map_of_mem hb)
  obtain ⟨a, ha, same⟩ := List.mem_map.mp named
  exact (Bound.highest_le_most ha same).trans (grown a ha b hb same)

theorem inStock_mono (stock : Stock onHand before) (stock' : Stock onHand after)
    (grown : Grown before after) (pick : Iri → Bool) :
    inStock pick before onHand ≤ inStock pick after onHand := by
  refine List.sum_le_sum fun c _ => ?_
  have more := highest_mono stock stock' grown c
  split
  · exact more
  · exact Nat.le_refl 0

theorem sum_picked_const (pick : Iri → Bool) (top : ℕ) (classes : List Iri) :
    (classes.map fun c => if pick c then top else 0).sum = classes.countP pick * top := by
  induction classes with
  | nil => simp
  | cons c rest ih =>
    rw [List.map_cons, List.sum_cons, ih, List.countP_cons]
    split
    · rw [Nat.succ_mul, Nat.add_comm]
    · rw [Nat.zero_add, Nat.add_zero]

theorem inStock_le (stock : Stock onHand after) (pick : Iri → Bool) :
    inStock pick after onHand ≤ onHand.countP pick * (Bound.unbounded - 1) := by
  rw [← sum_picked_const]
  refine List.sum_le_sum fun c hc => ?_
  obtain ⟨r, hr, rfl⟩ := List.mem_map.mp (stock.classes.mem_iff.mpr hc)
  have := stock.limited r hr
  split <;> omega

end Grown

theorem rounds_mono {need a b : ℕ} (found : need ≤ a) (more : a ≤ b)
    (few : need ≤ 2 ∨ b < 2 * need) : a / need + a % need ≤ b / need + b % need := by
  rcases few with small | few
  · rcases need with _ | _ | _ | need <;> omega
  · obtain ⟨c, rfl⟩ := Nat.exists_eq_add_of_le found
    obtain ⟨d, rfl⟩ := Nat.exists_eq_add_of_le (found.trans more)
    have hc : c < need := by omega
    have hd : d < need := by omega
    rw [Nat.add_div_left c (by omega), Nat.add_div_left d (by omega), Nat.add_mod_left,
      Nat.add_mod_left, Nat.div_eq_of_lt hc, Nat.div_eq_of_lt hd, Nat.mod_eq_of_lt hc,
      Nat.mod_eq_of_lt hd]
    omega

/-- The instance that completes the second round takes all leftovers with it. -/
theorem rounds_drop {need : ℕ} (h : 2 < need) :
    2 * need / need + 2 * need % need < (2 * need - 1) / need + (2 * need - 1) % need := by
  have few : need - 1 < need := by omega
  have rest : 2 * need - 1 = need + (need - 1) := by omega
  rw [rest, Nat.add_div_left _ (by omega), Nat.add_mod_left, Nat.div_eq_of_lt few,
    Nat.mod_eq_of_lt few, Nat.mul_div_cancel _ (by omega), Nat.mul_mod_left]
  omega

section Stocked

variable {onHand : List Iri} {g : Iri → ℕ}

def stockOf (g : Iri → ℕ) (onHand : List Iri) : List Restriction := onHand.map fun c => atMost c (g c)

theorem highest_stockOf {c : Iri} (hc : c ∈ onHand) (bounded : g c < Bound.unbounded) :
    Bound.highest (stockOf g onHand) c = g c := by
  refine Nat.le_antisymm ?_ (Bound.le_highest_iff.mpr ⟨bounded.le, ?_⟩)
  · exact Bound.highest_le_most (List.mem_map_of_mem hc) (r := atMost c (g c)) rfl
  · intro r hr named
    obtain ⟨d, -, rfl⟩ := List.mem_map.mp hr
    obtain rfl : d = c := named
    exact Nat.le_refl (g d)

theorem stock_stockOf (bounded : ∀ c, g c < Bound.unbounded) : Stock onHand (stockOf g onHand) := by
  refine ⟨?_, ?_, ?_⟩
  · intro r hr
    obtain ⟨c, -, rfl⟩ := List.mem_map.mp hr
    exact ⟨rfl, by simp [atMost, Restriction.object]⟩
  · intro r hr
    obtain ⟨c, hc, rfl⟩ := List.mem_map.mp hr
    exact (highest_stockOf hc (bounded c)).trans_lt (bounded c)
  · rw [stockOf, List.map_map]
    exact List.Perm.of_eq (List.map_id onHand)

theorem inStock_stockOf (bounded : ∀ c, g c < Bound.unbounded) (pick : Iri → Bool) :
    inStock pick (stockOf g onHand) onHand = (onHand.map fun c => if pick c then g c else 0).sum := by
  refine congrArg List.sum (List.map_congr_left fun c hc => ?_)
  rw [highest_stockOf hc (bounded c)]

theorem inStock_stockOf_all (bounded : ∀ c, g c < Bound.unbounded) {pick : Iri → Bool}
    (only : ∀ c, pick c = false → g c = 0) :
    inStock pick (stockOf g onHand) onHand = (onHand.map g).sum := by
  rw [inStock_stockOf bounded]
  refine congrArg List.sum (List.map_congr_left fun c _ => ?_)
  cases h : pick c with
  | true => rfl
  | false => exact (only c h).symm

theorem inStock_stockOf_none (bounded : ∀ c, g c < Bound.unbounded) {pick : Iri → Bool}
    (none : ∀ c, pick c = true → g c = 0) : inStock pick (stockOf g onHand) onHand = 0 := by
  rw [inStock_stockOf bounded]
  refine List.sum_eq_zero fun n hn => ?_
  obtain ⟨c, -, rfl⟩ := List.mem_map.mp hn
  cases h : pick c with
  | true => exact none c h
  | false => rfl

/-- Stocks of picked classes only, where the second has one instance more than the first. -/
theorem exists_grown (pick : Iri → Bool) (distinct : onHand.Nodup) (total : ℕ)
    (room : total < onHand.countP pick * (Bound.unbounded - 1)) :
    ∃ before after, Stock onHand before ∧ Stock onHand after ∧ Grown before after ∧
      inStock pick before onHand = total ∧ inStock pick after onHand = total + 1 ∧
      ∀ other : Iri → Bool, (∀ c, other c = true → pick c = false) →
        inStock other after onHand = 0 := by
  have whole : ∀ f : Iri → ℕ, ∑ c ∈ onHand.toFinset, f c = (onHand.map f).sum := fun f =>
    List.sum_toFinset f distinct
  obtain ⟨h, hle, hsum⟩ := Problem.exists_le_sum_eq onHand.toFinset
    (fun c => if pick c then Bound.unbounded - 1 else 0) (t := total + 1)
    (by rwa [whole, sum_picked_const])
  obtain ⟨g, gle, gsum⟩ := Problem.exists_le_sum_eq onHand.toFinset h (t := total) (by omega)
  have none : ∀ c, pick c = false → h c = 0 := by
    intro c hc
    have := hle c
    rw [hc, if_neg Bool.false_ne_true] at this
    omega
  have bounded : ∀ c, h c < Bound.unbounded := by
    intro c
    have := hle c
    have : 0 < Bound.unbounded := by decide
    split at * <;> omega
  have bounded' : ∀ c, g c < Bound.unbounded := fun c => (gle c).trans_lt (bounded c)
  refine ⟨stockOf g onHand, stockOf h onHand, stock_stockOf bounded', stock_stockOf bounded,
    ?_, ?_, ?_, ?_⟩
  · intro a ha b hb same
    obtain ⟨c, -, rfl⟩ := List.mem_map.mp ha
    obtain ⟨d, -, rfl⟩ := List.mem_map.mp hb
    obtain rfl : c = d := same
    exact gle c
  · rw [inStock_stockOf_all bounded', ← gsum, whole]
    intro c hc
    have := gle c
    have := none c hc
    omega
  · rw [inStock_stockOf_all bounded none, ← hsum, whole]
  · intro other apart
    exact inStock_stockOf_none bounded fun c hc => none c (apart c hc)

end Stocked

section Growth

variable {P : Type} [Field P] [LinearOrder P] [IsStrictOrderedRing P]

/-- Whenever a single requirement is met at all, resources that have grown make it no weaker. Only
resources that a counter can show are meant. -/
def NeverHurts (m : Scale P) (o : ω) (s : Session Allocation) (property q : Iri) (need : ℕ)
    (onHand : List Iri) : Prop :=
  ∀ before after, Stock onHand before → Stock onHand after → Grown before after →
    inStock (serves o · q) after onHand ≤ Count.limit →
    ∀ r, (Query.run o (m.assess o [.object property q need .min] before) s).1 = .ok [r] →
      ∃ t, (Query.run o (m.assess o [.object property q need .min] after) s).1 = .ok [t] ∧
        r.redundancy ≤ t.redundancy ∧ r.ideal ≤ t.ideal

/-- Every full round and every instance left over adds one to the redundancy of a single requirement.
More resources never lower it exactly if at most two instances are needed, or if there can never be
enough instances for two rounds. -/
theorem neverHurts_iff (m : Scale P) (s : Session Allocation) (property q : Iri) {need : ℕ}
    (positive : 0 < need) {onHand : List Iri} (distinct : onHand.Nodup) :
    (∀ available, Stock onHand available → inStock (serves o · q) available onHand ≤ Count.limit →
      (Query.run o (m.assess o [.object property q need .min] available) s).1 =
        if inStock (fits o q) available onHand < need then
          .error (.unmetMinimum (.unmetRequirements 1))
        else .ok [.create q need (m.base q) (redundancy o q need available onHand)]) ∧
    (NeverHurts m o s property q need onHand ↔
      need ≤ 2 ∨ Count.capped (onHand.countP (fits o q) * (Bound.unbounded - 1)) < 2 * need) := by
  have single := fun available (stock : Stock onHand available) few =>
    run_assess_counted o m s property q positive distinct stock few
  refine ⟨single, ?_, ?_⟩
  · intro never
    by_contra hn
    push Not at hn
    obtain ⟨three, room⟩ := hn
    have held := room.trans (Nat.min_le_left _ _)
    have shown := room.trans (Nat.min_le_right _ _)
    -- one round and `need - 1` leftovers against two rounds
    obtain ⟨before, after, stock, stock', grown, hb, ha, rest⟩ :=
      exists_grown (fits o q) distinct (2 * need - 1) (by omega)
    have total : 2 * need - 1 + 1 = 2 * need := by omega
    have nothing : spare o q after onHand = 0 := rest _ fun c hc => by
      simpa using (Bool.and_eq_true_iff.mp hc).2
    have few' : inStock (serves o · q) after onHand ≤ Count.limit := by
      rwa [inStock_serves, ha, nothing, total]
    have few := (inStock_mono stock stock' grown _).trans few'
    have found : ¬inStock (fits o q) before onHand < need := by omega
    obtain ⟨t, ht, le, -⟩ := never before after stock stock' grown few' _
      ((single before stock few).trans (if_neg found))
    rw [single after stock' few', if_neg (by omega)] at ht
    cases ht
    have less := rounds_drop three
    change redundancy o q need before onHand ≤ redundancy o q need after onHand at le
    rw [redundancy, redundancy, hb, ha, nothing, total] at le
    omega
  · intro bounded before after stock stock' grown few' r hr
    have few := (inStock_mono stock stock' grown _).trans few'
    rw [single before stock few] at hr
    split at hr
    · cases hr
    · next found =>
      cases hr
      have more := inStock_mono stock stock' grown (fits o q)
      have spare := inStock_mono stock stock' grown fun c => serves o c q && !fits o q c
      have most : inStock (fits o q) after onHand ≤
          Count.capped (onHand.countP (fits o q) * (Bound.unbounded - 1)) :=
        Nat.le_min.mpr ⟨inStock_le stock' _, (inStock_fits_le o q after onHand).trans few'⟩
      have rounds := rounds_mono (not_lt.mp found) more (by omega)
      refine ⟨_, (single after stock' few').trans (if_neg (by omega)), ?_⟩
      have le : redundancy o q need before onHand ≤ redundancy o q need after onHand :=
        Nat.add_le_add rounds spare
      exact ⟨le, Survivability.ideal_mono (Survivability.clamp_mem _) le⟩

/-- Arms never hurt where two are required, but where three are they do. -/
theorem neverHurts_arms : 0 < 2 ∧ 0 < 3 ∧ [arm].Nodup ∧
    NeverHurts coin parts matching ⟨"http://team#has"⟩ arm 2 [arm] ∧
    ¬NeverHurts coin parts matching ⟨"http://team#has"⟩ arm 3 [arm] := by
  have one : [arm].Nodup := List.nodup_singleton arm
  have count : [arm].countP (fits parts arm) = 1 := by
    simp [fits, FactBase.isSubclass_refl]
  refine ⟨by decide, by decide, one, ?_, ?_⟩
  · exact (neverHurts_iff parts coin matching _ arm (by decide) one).2.mpr (Or.inl (Nat.le_refl 2))
  · rw [(neverHurts_iff parts coin matching _ arm (by decide) one).2, count]
    decide

theorem stock_arms {n : ℕ} (bounded : n < Bound.unbounded) : Stock [arm] [atMost arm n] :=
  stock_stockOf (g := fun _ => n) fun _ => bounded

theorem run_assess_arms {n : ℕ} (some : 3 ≤ n) (bounded : n < Bound.unbounded) :
    (Query.run parts (coin.assess parts [atLeast arm 3] [atMost arm n]) matching).1 =
      .ok [⟨arm, 3, 1 / 2, n / 3 + n % 3⟩] := by
  have stock : [atMost arm n] = stockOf (fun _ => n) [arm] := rfl
  have all : inStock (fits parts arm) [atMost arm n] [arm] = n := by
    rw [stock, inStock_stockOf fun _ => bounded]
    simp [fits, FactBase.isSubclass_refl]
  have none : spare parts arm [atMost arm n] [arm] = 0 := by
    rw [spare, stock, inStock_stockOf fun _ => bounded]
    simp [fits, FactBase.isSubclass_refl]
  have few : inStock (serves parts · arm) [atMost arm n] [arm] ≤ Count.limit := by
    rw [inStock_serves, all, none]
    exact bounded.le
  have run := run_assess_counted parts coin matching ⟨"http://team#has"⟩ arm
    (show 0 < 3 by decide) (List.nodup_singleton arm) (stock_arms bounded) few
  rw [redundancy, all, none, if_neg (not_lt.mpr some)] at run
  have half : Survivability.clamp (coin.base arm) = 1 / 2 := by decide +kernel
  rwa [Survivability.create, half] at run

/-- Three arms are required. Five make a full round and two leftovers, six make two full rounds. -/
theorem growth_hurts_arms : Stock [arm] [atMost arm 5] ∧ Stock [arm] [atMost arm 6] ∧
    Grown [atMost arm 5] [atMost arm 6] ∧
    (Query.run parts (coin.assess parts [atLeast arm 3] [atMost arm 5]) matching).1 =
      .ok [⟨arm, 3, 1 / 2, 3⟩] ∧
    (Query.run parts (coin.assess parts [atLeast arm 3] [atMost arm 6]) matching).1 =
      .ok [⟨arm, 3, 1 / 2, 2⟩] ∧
    (⟨arm, 3, 1 / 2, 2⟩ : Survivability ℚ).ideal < (⟨arm, 3, 1 / 2, 3⟩ : Survivability ℚ).ideal := by
  refine ⟨stock_arms (by decide), stock_arms (by decide), ?_, run_assess_arms (by decide) (by decide),
    run_assess_arms (by decide) (by decide), ?_⟩
  · unfold Grown
    decide
  · decide +kernel

end Growth

end RobotTeam.Redundancy
