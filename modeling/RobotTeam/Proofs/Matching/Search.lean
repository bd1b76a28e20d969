import RobotTeam.Matching.Allocation
import Mathlib.Algebra.BigOperators.Group.List.Basic
import Mathlib.Data.Nat.Notation

/-! The search finds the lexicographically greatest table of shares, or nothing if there is none. A
search is described by the candidates it ranges over and by what an attempt at a candidate yields.
Choosing a head first and the rest of a list after it is again such a search, which is how shares
make up a row and rows make up a table. -/

namespace RobotTeam.Demand

/-- The answer is that of the greatest candidate whose attempt succeeds. -/
inductive Greatest {α β : Type} [LT β] (candidate : β → Prop) (attempt : β → Option α) :
    Option α → Prop where
  | found (b : β) (a : α) (hb : candidate b) (ha : attempt b = some a)
      (above : ∀ c, candidate c → b < c → attempt c = none) : Greatest candidate attempt (some a)
  | missed (all : ∀ b, candidate b → attempt b = none) : Greatest candidate attempt none

section

variable {α β : Type} [LT β] {p q : β → Prop} {f g : β → Option α} {r : Option α}

/-- Further candidates whose attempts fail make no difference. -/
theorem Greatest.widen (h : Greatest p f r) (sub : ∀ b, p b → q b) (same : ∀ b, p b → g b = f b)
    (fails : ∀ b, q b → p b ∨ g b = none) : Greatest q g r := by
  cases h with
  | found b a hb ha above =>
    refine .found b a (sub b hb) ((same b hb).trans ha) ?_
    intro c hc hlt
    rcases fails c hc with hp | hn
    · exact (same c hp).trans (above c hp hlt)
    · exact hn
  | missed all =>
    refine .missed ?_
    intro b hb
    rcases fails b hb with hp | hn
    · exact (same b hp).trans (all b hp)
    · exact hn

theorem Greatest.cons {t : β → List β → Prop} {k : β → List β → Option α}
    (heads : Greatest p g r) (tails : ∀ b, p b → Greatest (t b) (k b) (g b)) :
    Greatest (fun l => ∃ b u, l = b :: u ∧ p b ∧ t b u)
      (fun l => match l with | [] => none | b :: u => k b u) r := by
  cases heads with
  | found b a hb ha above =>
    have ht := tails b hb
    rw [ha] at ht
    cases ht with
    | found u _ hu hk higher =>
      refine .found (b :: u) a ⟨b, u, rfl, hb, hu⟩ hk ?_
      rintro _ ⟨c, v, rfl, hc, hv⟩ hlt
      rcases List.cons_lt_cons_iff.mp hlt with hbc | ⟨rfl, huv⟩
      · have hn := tails c hc
        rw [above c hc hbc] at hn
        cases hn with
        | missed all => exact all v hv
      · exact higher v hv huv
  | missed all =>
    refine .missed ?_
    rintro _ ⟨b, u, rfl, hb, hu⟩
    have hn := tails b hb
    rw [all b hb] at hn
    cases hn with
    | missed none => exact none u hu

theorem Greatest.map {γ : Type} (h : Greatest p f r) (m : α → γ) :
    Greatest p (fun b => (f b).map m) (r.map m) := by
  cases h with
  | found b a hb ha above =>
    refine .found b (m a) hb (by rw [ha]; rfl) ?_
    intro c hc hlt
    rw [above c hc hlt]
    rfl
  | missed all => exact .missed fun b hb => by rw [all b hb]; rfl

/-- A search that accepts every candidate returns the greatest one. -/
theorem Greatest.eq_some_iff {r : Option β} (h : Greatest p some r) {b : β}
    (total : ∀ c d : β, ¬c < d → ¬d < c → c = d) :
    r = some b ↔ p b ∧ ∀ c, p c → ¬b < c := by
  cases h with
  | found a _ ha he above =>
    cases he
    have top : ∀ c, p c → ¬a < c := fun c hc hlt => by simpa using above c hc hlt
    constructor
    · intro hb
      cases hb
      exact ⟨ha, top⟩
    · rintro ⟨hb, hmax⟩
      rw [total a b (top b hb) (hmax a ha)]
  | missed all =>
    constructor
    · intro hb
      cases hb
    · rintro ⟨hb, -⟩
      simpa using all b hb

theorem Greatest.isSome_iff {r : Option β} (h : Greatest p some r) : r.isSome ↔ ∃ b, p b := by
  cases h with
  | found b _ hb he above => exact ⟨fun _ => ⟨b, hb⟩, fun _ => rfl⟩
  | missed all =>
    constructor
    · intro h
      cases h
    · rintro ⟨b, hb⟩
      simpa using all b hb

end

theorem tryShares_greatest {α : Type} (attempt : ℕ → Option α) (least extra : ℕ) :
    Greatest (fun n => least ≤ n ∧ n ≤ least + extra) attempt (tryShares attempt least extra) := by
  induction extra with
  | zero =>
    have single : ∀ n, least ≤ n ∧ n ≤ least + 0 → n = least := fun n hn => by omega
    cases h : attempt least with
    | none =>
      rw [tryShares, h]
      exact .missed fun n hn => single n hn ▸ h
    | some a =>
      rw [tryShares, h]
      exact .found least a (by omega) h fun n hn hlt => by omega
  | succ extra ih =>
    rw [tryShares]
    cases h : attempt (least + (extra + 1)) with
    | some a => exact .found (least + (extra + 1)) a (by omega) h fun n hn hlt => by omega
    | none =>
      refine ih.widen (fun n hn => by omega) (fun _ _ => rfl) ?_
      intro n hn
      by_cases top : n = least + (extra + 1)
      · exact Or.inr (top ▸ h)
      · exact Or.inl (by omega)

inductive Row : ℕ → List Bool → List ℕ → List ℕ → Prop where
  | nil : Row 0 [] [] []
  | cons {fit : Bool} {share held need : ℕ} {fits : List Bool} {slots row : List ℕ}
      (within : share ≤ held) (fitting : share ≠ 0 → fit = true) (rest : Row need fits slots row) :
      Row (share + need) (fit :: fits) (held :: slots) (share :: row)

def left (held row : List ℕ) : List ℕ := List.zipWith (· - ·) held row

theorem Row.le_supply {need : ℕ} {fits : List Bool} {held row : List ℕ}
    (h : Row need fits held row) : need ≤ supply fits held := by
  induction h with
  | nil => exact Nat.zero_le _
  | @cons fit share held need fits slots row within fitting rest ih =>
    simp only [supply]
    by_cases hs : share = 0
    · omega
    · rw [if_pos (fitting hs)]
      omega

/-- The pruning of the search: a first share is at most what the slot gives, and at least what the
later slots cannot give. -/
theorem row_cons_iff {need held : ℕ} {fit : Bool} {fits : List Bool} {slots l : List ℕ} :
    Row need (fit :: fits) (held :: slots) l ↔
      ∃ share row, l = share :: row ∧
        (need - supply fits slots ≤ share ∧ share ≤ if fit then min need held else 0) ∧
        Row (need - share) fits slots row := by
  constructor
  · intro h
    cases h with
    | @cons _ share _ need _ _ row within fitting rest =>
      refine ⟨share, row, rfl, ⟨?_, ?_⟩, ?_⟩
      · have := rest.le_supply
        omega
      · by_cases hs : share = 0
        · omega
        · rw [if_pos (fitting hs)]
          omega
      · rwa [Nat.add_sub_cancel_left]
  · rintro ⟨share, row, rfl, ⟨-, most⟩, rest⟩
    cases fit with
    | false =>
      obtain rfl : share = 0 := by simpa using most
      have h : Row (0 + (need - 0)) (false :: fits) (held :: slots) (0 :: row) :=
        .cons (Nat.zero_le held) (by simp) rest
      simpa using h
    | true =>
      simp only [if_true] at most
      have h : Row (share + (need - share)) (true :: fits) (held :: slots) (share :: row) :=
        .cons (by omega) (by simp) rest
      rwa [Nat.add_sub_cancel' (by omega)] at h

theorem row_nil_iff {need : ℕ} {row : List ℕ} : Row need [] [] row ↔ need = 0 ∧ row = [] := by
  constructor
  · intro h
    cases h
    exact ⟨rfl, rfl⟩
  · rintro ⟨rfl, rfl⟩
    exact .nil

theorem split_greatest {α : Type} (goOn : List ℕ → List ℕ → Option α) {fits : List Bool}
    {held : List ℕ} (same : fits.length = held.length) (shares kept : List ℕ) (need : ℕ) :
    Greatest (Row need fits held)
      (fun row => goOn (shares.reverse ++ row) (kept.reverse ++ left held row))
      (split goOn shares kept need fits held) := by
  induction fits generalizing held shares kept need with
  | nil =>
    obtain rfl : held = [] := List.length_eq_zero_iff.mp same.symm
    simp only [split, List.append_nil]
    by_cases h : need = 0
    · rw [if_pos h]
      have only : ∀ row, Row need [] [] row → row = [] := fun row hr => (row_nil_iff.mp hr).2
      cases e : goOn shares.reverse kept.reverse with
      | none => exact .missed fun row hr => by simpa [only row hr, left] using e
      | some a =>
        refine .found [] a (row_nil_iff.mpr ⟨h, rfl⟩) (by simpa [left] using e) ?_
        intro row hr hlt
        rw [only row hr] at hlt
        exact absurd hlt (List.not_lt_nil _)
    · rw [if_neg h]
      exact .missed fun row hr => absurd (row_nil_iff.mp hr).1 h
  | cons fit fits ih =>
    cases held with
    | nil => cases same
    | cons held slots =>
      have same : fits.length = slots.length := Nat.succ.inj same
      simp only [split]
      generalize hm : (if fit = true then min need held else 0) = most
      generalize hl : need - supply fits slots = least
      have shape : ∀ l, Row need (fit :: fits) (held :: slots) l ↔ ∃ share row, l = share :: row ∧
          (least ≤ share ∧ share ≤ most) ∧ Row (need - share) fits slots row := by
        intro l
        rw [row_cons_iff, hm, hl]
      by_cases hlt : most < least
      · rw [if_pos hlt]
        refine .missed fun l h => ?_
        obtain ⟨share, -, -, hs, -⟩ := (shape l).mp h
        omega
      · rw [if_neg hlt]
        have heads := tryShares_greatest (fun share =>
          split goOn (share :: shares) ((held - share) :: kept) (need - share) fits slots)
          least (most - least)
        rw [Nat.add_sub_cancel' (by omega)] at heads
        refine (heads.cons fun share _ =>
          ih same (share :: shares) ((held - share) :: kept) (need - share)).widen
          (fun l h => (shape l).mpr h) ?_ (fun l h => Or.inl ((shape l).mp h))
        rintro _ ⟨share, row, rfl, -, -⟩
        simp [left]

inductive Table : List Demand → List ℕ → List (List ℕ) → Prop where
  | nil (held : List ℕ) : Table [] held []
  | cons {d : Demand} {rest : List Demand} {held row : List ℕ} {rows : List (List ℕ)}
      (first : Row d.need d.fits held row) (others : Table rest (left held row) rows) :
      Table (d :: rest) held (row :: rows)

theorem Row.length_eq {need : ℕ} {fits : List Bool} {held row : List ℕ}
    (h : Row need fits held row) : row.length = held.length ∧ fits.length = held.length := by
  induction h with
  | nil => exact ⟨rfl, rfl⟩
  | cons _ _ _ ih => exact ⟨congrArg Nat.succ ih.1, congrArg Nat.succ ih.2⟩

theorem length_left {need : ℕ} {fits : List Bool} {held row : List ℕ}
    (h : Row need fits held row) : (left held row).length = held.length := by
  rw [left, List.length_zipWith, h.length_eq.1, Nat.min_self]

theorem allocate_greatest {demands : List Demand} {held : List ℕ}
    (same : ∀ d ∈ demands, d.fits.length = held.length) :
    Greatest (Table demands held) some (allocate demands held) := by
  induction demands generalizing held with
  | nil =>
    refine .found [] [] (.nil held) rfl ?_
    intro rows h hlt
    cases h
    exact absurd hlt (List.not_lt_nil _)
  | cons d rest ih =>
    rw [allocate]
    have heads := split_greatest (fun row kept => (allocate rest kept).map (row :: ·))
      (same d List.mem_cons_self) [] [] d.need
    have tails : ∀ row, Row d.need d.fits held row →
        Greatest (Table rest (left held row)) (fun rows => (some rows).map (row :: ·))
          ((allocate rest (left held row)).map (row :: ·)) := by
      intro row h
      refine (ih fun e he => ?_).map (row :: ·)
      rw [length_left h]
      exact same e (List.mem_cons_of_mem d he)
    refine (heads.cons tails).widen ?_ ?_ ?_
    · rintro _ ⟨row, rows, rfl, h, hrest⟩
      exact .cons h hrest
    · rintro _ ⟨row, rows, rfl, -, -⟩
      rfl
    · intro _ h
      cases h with
      | cons first others => exact Or.inl ⟨_, _, rfl, first, others⟩

end RobotTeam.Demand
