import RobotTeam.Proofs.Pool.Counts
import Mathlib.Order.Lattice

/-! Capping as a meet. Among the pools without stored zeros, being within another pool is a partial
order, and a pool that is capped by another one is the greatest pool within both. -/

namespace RobotTeam.Pool

section Cap

def capOne (upper r : Pool) (e : Iri × ℕ) : Pool :=
  match upper.counts[e.1]? with
  | some most => r.set e.1 (min e.2 most)
  | none => r

theorem count_capOne {upper r : Pool} {e : Iri × ℕ} (fresh : r.count e.1 = 0) (m : Iri) :
    (capOne upper r e).count m = r.count m + if e.1 = m then min e.2 (upper.count m) else 0 := by
  unfold capOne
  by_cases named : e.1 = m
  · subst named
    rw [if_pos rfl, fresh, Nat.zero_add]
    cases known : upper.counts[e.1]? with
    | none =>
      have none : upper.count e.1 = 0 := by
        rw [count, Std.ExtTreeMap.getD_eq_getD_getElem?, known]
        rfl
      rw [none, Nat.min_zero]
      exact fresh
    | some most =>
      rw [count_eq_of_getElem? known]
      exact (count_set r e.1 _ e.1).trans (if_pos rfl)
  · rw [if_neg named, Nat.add_zero]
    cases upper.counts[e.1]? with
    | none => rfl
    | some most => exact (count_set r e.1 _ m).trans (if_neg named)

/-- No model is stored twice, so each step finds its model not counted yet. -/
theorem count_cap (p upper : Pool) (m : Iri) :
    (p.cap upper).count m = min (p.count m) (upper.count m) := by
  suffices ∀ (entries : List (Iri × ℕ)) (r : Pool), (entries.map Prod.fst).Nodup →
      (∀ e ∈ entries, r.count e.1 = 0) → (entries.foldl (capOne upper) r).count m =
        r.count m + min (amount entries m) (upper.count m) by
    have all := this p.entries ∅ p.nodup_fst_entries fun e _ => count_empty e.1
    rwa [count_empty, Nat.zero_add, amount_entries] at all
  -- over the entries; what is still to come must not be counted so far
  intro entries
  induction entries with
  | nil => simp [amount]
  | cons e rest ih =>
    intro r keys fresh
    obtain ⟨he, hrest⟩ := List.nodup_cons.mp keys
    have here : r.count e.1 = 0 := fresh e List.mem_cons_self
    have later : ∀ t ∈ rest, (capOne upper r e).count t.1 = 0 := by
      intro t ht
      have other : e.1 ≠ t.1 := fun same => he (same ▸ List.mem_map_of_mem ht)
      rw [count_capOne here, if_neg other, fresh t (List.mem_cons_of_mem e ht)]
    rw [List.foldl_cons, ih _ hrest later, count_capOne here, amount_cons]
    by_cases named : e.1 = m
    · subst named
      -- the rest of the entries does not name the model again
      rw [if_pos rfl, if_pos rfl, amount_of_not_mem he, Nat.zero_min, Nat.add_zero, Nat.add_zero]
    · rw [if_neg named, if_neg named, Nat.add_zero, Nat.zero_add]

end Cap

section Order

variable {p q r : Pool}

theorem Within.refl (p : Pool) : p.Within p := within_iff.mpr fun _ => Nat.le_refl _

theorem Within.trans (h : p.Within q) (k : q.Within r) : p.Within r := by
  rw [within_iff] at *
  intro m
  exact (h m).trans (k m)

theorem NoZeros.antisymm (hp : p.NoZeros) (hq : q.NoZeros) (h : p.Within q) (k : q.Within p) :
    p = q := by
  rw [within_iff] at h k
  exact hp.ext hq fun m => Nat.le_antisymm (h m) (k m)

/-- What a pool is capped to holds all that is within both pools, and nothing else. -/
theorem within_cap_iff : r.Within (p.cap q) ↔ r.Within p ∧ r.Within q := by
  simp only [within_iff, count_cap, Nat.le_min, forall_and]

abbrev ZeroFree := {p : Pool // p.NoZeros}

instance : PartialOrder ZeroFree where
  le p q := p.1.Within q.1
  le_refl p := Within.refl p.1
  le_trans _ _ _ h k := h.trans k
  le_antisymm p q h k := Subtype.ext (p.2.antisymm q.2 h k)

instance : SemilatticeInf ZeroFree where
  inf p q := ⟨p.1.cap q.1, noZeros_cap p.1 q.1⟩
  inf_le_left _ _ := (within_cap_iff.mp (Within.refl _)).1
  inf_le_right _ _ := (within_cap_iff.mp (Within.refl _)).2
  le_inf _ _ _ h k := within_cap_iff.mpr ⟨h, k⟩

end Order

/-- Being within is a partial order on pools without stored zeros, and capping is its meet: it gives the
greatest pool within both, it does not matter in which order and how often pools are capped, and a pool
stays as it is exactly if it is within the other one. -/
theorem cap_meet {p q r : Pool} (hp : p.NoZeros) (hq : q.NoZeros) (hr : r.NoZeros) :
    (p.Within p ∧ (p.Within q → q.Within r → p.Within r) ∧ (p.Within q → q.Within p → p = q)) ∧
    ((p.cap q).NoZeros ∧ (p.cap q).Within p ∧ (p.cap q).Within q ∧
      (r.Within p → r.Within q → r.Within (p.cap q))) ∧
    p.cap q = q.cap p ∧ (p.cap q).cap r = p.cap (q.cap r) ∧ p.cap p = p ∧
    (p.cap q = p ↔ p.Within q) := by
  let a : ZeroFree := ⟨p, hp⟩
  let b : ZeroFree := ⟨q, hq⟩
  let c : ZeroFree := ⟨r, hr⟩
  have least : a ⊓ b = a ↔ a ≤ b := inf_eq_left
  rw [Subtype.ext_iff] at least
  refine ⟨⟨le_refl a, Within.trans, hp.antisymm hq⟩, ⟨(a ⊓ b).2, ?_, ?_, ?_⟩, ?_, ?_, ?_, least⟩
  · exact (inf_le_left : a ⊓ b ≤ a)
  · exact (inf_le_right : a ⊓ b ≤ b)
  · intro within also
    exact (le_inf within also : c ≤ a ⊓ b)
  · exact congrArg Subtype.val (inf_comm a b)
  · exact congrArg Subtype.val (inf_assoc a b c)
  · exact congrArg Subtype.val (inf_idem a)

/-- A team and a yard that have only arms in common, one of them in the yard. -/
theorem cap_meet_arms :
    let arm : Iri := ⟨"http://team#Arm"⟩
    let hook : Iri := ⟨"http://team#Hook"⟩
    let tug : Iri := ⟨"http://team#Tug"⟩
    let team : Pool := ofEntries [(arm, 3), (hook, 1)]
    let yard : Pool := ofEntries [(arm, 1), (tug, 2)]
    (team.NoZeros ∧ yard.NoZeros ∧ (single arm 1).NoZeros) ∧
    ((single arm 1).Within team ∧ (single arm 1).Within yard ∧
      (single arm 1).Within (team.cap yard)) ∧
    team.cap yard = single arm 1 ∧ yard.cap team = single arm 1 ∧
    ¬team.Within yard ∧ team.cap yard ≠ team := by
  intro arm hook tug team yard
  have hp : team.NoZeros := noZeros_ofEntries _
  have hq : yard.NoZeros := noZeros_ofEntries _
  have hr : (single arm 1).NoZeros := noZeros_single arm 1
  have inTeam : (single arm 1).Within team := by decide
  have inYard : (single arm 1).Within yard := by decide
  have lacking : ¬team.Within yard := by decide
  have common : team.cap yard = single arm 1 := by decide
  obtain ⟨-, ⟨-, -, -, greatest⟩, comm, -, -, stays_iff⟩ := cap_meet hp hq hr
  exact ⟨⟨hp, hq, hr⟩, ⟨inTeam, inYard, greatest inTeam inYard⟩, common, comm.symm.trans common,
    lacking, mt stays_iff.mp lacking⟩

end RobotTeam.Pool
