import RobotTeam.Proofs.Redundancy.Rounds

/-! Contention for an earlier slot. Where slots do not stand in an orderly way, there are needs and
stocks for which the canonical solution spends a slot that a rival requirement cannot do without, so
that one round is made although two are possible. -/

namespace RobotTeam.Problem

variable {m n : ℕ} {p : Problem m n} {x : Fin m → Fin n → ℕ} {i : Fin m} {a b : Fin n}

/-- A requirement served from a later slot finds every earlier slot that fits it used up. -/
theorem Canonical.used_up (hx : p.Canonical x) (hlt : a < b) (hb : x i b ≠ 0) (ha : p.fits i a) :
    ∑ k, x k a = p.held a := by
  by_contra hne
  have room := lt_of_le_of_ne (hx.1.within a) hne
  exact absurd (reading_lt_shift hlt) (not_lt.mpr (hx.2 _ (hx.1.shift hb ha hlt.ne room)))

theorem sum_le_two_places (f : Fin n → ℕ) (a b : Fin n) {c : ℕ}
    (h : ∀ j, j ≠ a → j ≠ b → f j ≤ c) : ∑ j, f j ≤ f a + f b + n * c := by
  have each : ∀ j ∈ Finset.univ,
      f j ≤ (if j = a then f a else 0) + (if j = b then f b else 0) + c := by
    intro j _
    by_cases ha : j = a
    · subst ha
      rw [if_pos rfl]
      omega
    · by_cases hb : j = b
      · subst hb
        rw [if_pos rfl]
        omega
      · have := h j ha hb
        omega
  have := Finset.sum_le_sum each
  simpa [Finset.sum_add_distrib] using this

theorem Solves.le_held (h : p.Solves x) (k : Fin m) (j : Fin n) : x k j ≤ p.held j :=
  (le_column x k j).trans (h.within j)

/-- What a slot gives to two different requirements is within what it gives in all. -/
theorem add_le_column {k : Fin m} (hne : i ≠ k) (x : Fin m → Fin n → ℕ) (j : Fin n) :
    x i j + x k j ≤ ∑ l, x l j := by
  have := Finset.add_le_sum (f := fun l => x l j) (fun l _ => Nat.zero_le _)
    (Finset.mem_univ i) (Finset.mem_univ k) hne
  exact this

/-- Two rivals need much and the others one instance; the two contested slots hold enough for two
rounds, and the other slots little. -/
def contested (fits : Fin m → Fin n → Prop) (i k : Fin m) (a b : Fin n) (much : ℕ) :
    Problem m n where
  need l := if l = i ∨ l = k then much else 1
  held j := if j = a ∨ j = b then 2 * much + 2 * m else 2 * m
  fits := fits

section

variable {fits : Fin m → Fin n → Prop} {k : Fin m} {much : ℕ}

theorem contested_need (l : Fin m) :
    (contested fits i k a b much).need l = if l = i ∨ l = k then much else 1 := rfl

theorem contested_held (j : Fin n) : (contested fits i k a b much).held j =
    if j = a ∨ j = b then 2 * much + 2 * m else 2 * m := rfl

theorem contested_twice (hab : a ≠ b) (hik : i ≠ k) (fb : fits i b) (fa : fits k a)
    (served : ∀ l, ∃ j, fits l j) : ((contested fits i k a b much).times 2).Solvable := by
  choose slot hslot using served
  let place : Fin m → Fin n := fun l => if l = i then b else if l = k then a else slot l
  let amount : Fin m → ℕ := fun l => if l = i ∨ l = k then much else 1
  have small : ∀ l j, (if j = place l then 2 * amount l else 0) ≤
      ((if l = i then if j = b then 2 * much else 0 else 0) +
        if l = k then if j = a then 2 * much else 0 else 0) + 2 := by
    intro l j
    by_cases hi : l = i
    · simp [place, amount, hi, hik]
    · by_cases hk : l = k
      · subst hk
        simp [place, amount, hi]
      · have one : amount l = 1 := if_neg (by tauto)
        rw [one, if_neg hi, if_neg hk]
        split <;> omega
  refine ⟨fun l j => if j = place l then 2 * amount l else 0, ?_, ?_, ?_⟩
  · intro l j h
    have hj : j = place l := by
      by_contra hn
      exact h (if_neg hn)
    show fits l j
    rw [hj]
    by_cases hi : l = i
    · simpa [place, hi] using fb
    · by_cases hk : l = k
      · subst hk
        simpa [place, hi] using fa
      · simpa [place, hi, hk] using hslot l
  · intro l
    rw [Finset.sum_ite_eq' Finset.univ (place l), if_pos (Finset.mem_univ _)]
    rfl
  · intro j
    have sums := Finset.sum_le_sum fun l (_ : l ∈ Finset.univ) => small l j
    rw [Finset.sum_add_distrib, Finset.sum_add_distrib, Finset.sum_ite_eq' Finset.univ i,
      Finset.sum_ite_eq' Finset.univ k, if_pos (Finset.mem_univ _), if_pos (Finset.mem_univ _),
      Finset.sum_const, Finset.card_univ, Fintype.card_fin, smul_eq_mul] at sums
    refine sums.trans ?_
    rw [times_held, contested_held]
    by_cases ha : j = a
    · have hb : j ≠ b := fun e => hab (ha.symm.trans e)
      rw [if_neg hb, if_pos ha, if_pos (Or.inl ha)]
      omega
    · by_cases hb : j = b
      · rw [if_pos hb, if_neg ha, if_pos (Or.inr hb)]
        omega
      · rw [if_neg hb, if_neg ha, if_neg (by tauto)]
        omega

theorem contested_once (hab : a < b) (hik : i ≠ k) (fa : fits i a) (nb : ¬fits k b)
    (large : 3 * (n * (2 * m)) + 2 * m < much)
    (hx : (contested fits i k a b much).Canonical x) :
    ¬((contested fits i k a b much).without x).Solvable := by
  rintro ⟨z, hz⟩
  have heldA : (contested fits i k a b much).held a = 2 * much + 2 * m := if_pos (Or.inl rfl)
  have needI : (contested fits i k a b much).need i = much := if_pos (Or.inl rfl)
  have needK : (contested fits i k a b much).need k = much := if_pos (Or.inr rfl)
  have little : ∀ j, j ≠ a → j ≠ b → (contested fits i k a b much).held j = 2 * m :=
    fun j ha hb => if_neg (by tauto)
  have column : ∑ l, x l a + ∑ l, z l a ≤ 2 * much + 2 * m := by
    have hxa := hx.1.within a
    have hza : ∑ l, z l a ≤ (contested fits i k a b much).held a - ∑ l, x l a := hz.within a
    omega
  -- the rival has the earlier slot and little else, in this round and in the next
  have rivalX : much ≤ x k a + n * (2 * m) := by
    have none : x k b = 0 := by
      by_contra h
      exact nb (hx.1.fits k b h)
    have := sum_le_two_places (x k) a b fun j ha hb => little j ha hb ▸ hx.1.le_held k j
    rw [hx.1.met, needK] at this
    omega
  have rivalZ : much ≤ z k a + n * (2 * m) := by
    have none : z k b = 0 := by
      by_contra h
      exact nb (hz.fits k b h)
    have := sum_le_two_places (z k) a b (c := 2 * m) fun j ha hb => by
      have := hz.le_held k j
      have : ((contested fits i k a b much).without x).held j ≤ 2 * m := by
        rw [← little j ha hb]
        exact Nat.sub_le _ _
      omega
    rw [show ∑ j, z k j = much from (hz.met k).trans needK] at this
    omega
  have zka := le_column z k a
  by_cases later : x i b = 0
  · have := sum_le_two_places (x i) a b fun j ha hb => little j ha hb ▸ hx.1.le_held i j
    rw [hx.1.met, needI] at this
    have := add_le_column hik x a
    omega
  · have := hx.used_up hab later fa
    omega

theorem contested_times {l : ℕ} (hik : i ≠ k)
    (large : 3 * (n * (2 * m)) + 2 * m < much)
    (h : ((contested fits i k a b much).times l).Solvable) : l ≤ 2 := by
  let p := contested fits i k a b much
  have needI : p.need i = much := if_pos (Or.inl rfl)
  have needK : p.need k = much := if_pos (Or.inr rfl)
  have heldA : p.held a = 2 * much + 2 * m := if_pos (Or.inl rfl)
  have heldB : p.held b = 2 * much + 2 * m := if_pos (Or.inr rfl)
  have needs : p.need i + p.need k ≤ ∑ t, p.need t :=
    Finset.add_le_sum (fun t _ => Nat.zero_le _) (Finset.mem_univ i) (Finset.mem_univ k) hik
  have stock : ∑ j, p.held j ≤ p.held a + p.held b + n * (2 * m) :=
    sum_le_two_places p.held a b fun j ha hb => (if_neg (by tauto)).le
  have total : l * ∑ t, p.need t ≤ ∑ j, p.held j := h.times_total_le
  have often := Nat.mul_le_mul_left l needs
  rw [needI, needK] at often
  by_contra more
  have three := Nat.mul_le_mul_right (much + much) (not_le.mp more)
  omega

end

/-- In a disorderly problem whose requirements all have a fitting slot, the counts can be such that
one round is made where two, and no more than two, are possible. No count has to be large. -/
theorem exists_contested (fits : Fin m → Fin n → Prop) (served : ∀ i, ∃ j, fits i j)
    (disorder : ¬∀ i a b, a < b → fits i a → fits i b → ∀ k, fits k a → fits k b) :
    ∃ need held, (∀ i, 0 < need i ∧ need i ≤ 18 * (m * n) + 2) ∧
      (∀ j, held j ≤ 18 * (m * n) + 2) ∧
      ((Problem.mk need held fits).times 2).Solvable ∧
      (∀ l, ((Problem.mk need held fits).times l).Solvable → l ≤ 2) ∧
      ∀ c, (Problem.mk need held fits).Runs c → c < 2 := by
  push Not at disorder
  obtain ⟨i, a, b, hab, fa, fb, k, fka, nb⟩ := disorder
  have hik : i ≠ k := fun e => nb (e ▸ fb)
  let much := 3 * (n * (2 * m)) + 2 * m + 1
  have large : 3 * (n * (2 * m)) + 2 * m < much := Nat.lt_succ_self _
  have slots : m ≤ m * n := Nat.le_mul_of_pos_right m a.pos
  have same : n * (2 * m) = 2 * (m * n) := by
    rw [Nat.mul_left_comm, Nat.mul_comm n]
  refine ⟨(contested fits i k a b much).need, (contested fits i k a b much).held, ?_, ?_,
    contested_twice hab.ne hik fb fka served, ?_, ?_⟩
  · intro l
    rw [contested_need]
    split <;> omega
  · intro j
    rw [contested_held]
    split <;> omega
  · intro l
    exact contested_times hik large
  · intro c hc
    cases hc with
    | stop => omega
    | round hx rest =>
      cases rest with
      | stop => omega
      | round hy _ => exact absurd ⟨_, hy.1⟩ (contested_once hab hik fa nb large hx)

end RobotTeam.Problem
