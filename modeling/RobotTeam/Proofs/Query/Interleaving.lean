import RobotTeam.FactBase.Basic
import RobotTeam.Matching.Allocation
import RobotTeam.Organization.Support
import RobotTeam.Proofs.Query.Answer
import Mathlib.Logic.Function.Iterate

/-! Calls under way at the same time. Looking a total up and recording a missing one are separate
steps, and the steps of several calls that share a cache come in any order, so that two calls may
both miss and both record the same total. No answer depends on that, nor on what was asked before. -/

namespace RobotTeam

variable {ω μ : Type} [Ontology ω] {α : Type}

/-- A call goes on with its query, or has looked a total up and goes on with what it found. -/
inductive Call (α : Type) : Type where
  | asking (rest : Query α)
  | looked (key : TotalKey) (found : Option (List Restriction)) (goOn : List Restriction → Query α)

namespace Call

variable [Matcher μ ω]

def answer? : Call α → Option α
  | asking (.done a) => some a
  | _ => none

/-- One step of a call. What it did not find it computes and records, unless it is there by now. -/
def step (o : ω) : Call α → Session μ → Call α × Session μ
  | asking (.done a), s => (asking (.done a), s)
  | asking (.total key goOn), s => (looked key (s.cache.lookup? key) goOn, s)
  | asking (.assign required available goOn), s =>
    (asking (goOn (Matcher.solve s.matcher o required available).1),
      { s with matcher := (Matcher.solve s.matcher o required available).2 })
  | looked _ (some known) goOn, s => (asking (goOn known), s)
  | looked key none goOn, s =>
    (asking (goOn (key.total o)), { s with cache := s.cache.insert key (key.total o) })

/-- Steps of a single call lead to what running its query gives. -/
theorem exists_steps_run (o : ω) (q : Query α) (s : Session μ) :
    ∃ n, (fun c : Call α × Session μ => c.1.step o c.2)^[n] (asking q, s) =
      (asking (.done (q.run o s).1), (q.run o s).2) := by
  induction q generalizing s with
  | done a => exact ⟨0, rfl⟩
  | total key goOn ih =>
    cases h : s.cache.lookup? key with
    | some known =>
      obtain ⟨n, hn⟩ := ih known s
      refine ⟨n + 2, ?_⟩
      simp only [Function.iterate_succ_apply, step, h, Query.run]
      exact hn
    | none =>
      obtain ⟨n, hn⟩ := ih (key.total o) { s with cache := s.cache.insert key (key.total o) }
      refine ⟨n + 2, ?_⟩
      simp only [Function.iterate_succ_apply, step, h, Query.run]
      exact hn
  | assign required available goOn ih =>
    obtain ⟨n, hn⟩ := ih _ { s with matcher := (Matcher.solve s.matcher o required available).2 }
    exact ⟨n + 1, hn⟩

def Sound (o : ω) : Call α → Prop
  | asking _ => True
  | looked key found _ => ∀ known, found = some known → known = key.total o

def found (o : ω) : Call α → Call α
  | asking q => asking q
  | looked key _ goOn => looked key (some (key.total o)) goOn

def rest (o : ω) : Call α → Query α
  | asking q => q
  | looked key _ goOn => goOn (key.total o)

@[simp] theorem answer?_found (o : ω) (c : Call α) : (c.found o).answer? = c.answer? := by
  cases c <;> rfl

theorem rest_of_answer? {o : ω} {c : Call α} {a : α} (h : c.answer? = some a) :
    c.rest o = .done a := by
  cases c with
  | asking q =>
    cases q with
    | done b => simpa [rest, answer?] using h
    | total => simp [answer?] at h
    | assign => simp [answer?] at h
  | looked => simp [answer?] at h

theorem step_sound {o : ω} {c : Call α} {s : Session μ} (hc : c.Sound o) (hs : s.cache.Sound o) :
    (c.step o s).1.Sound o ∧ (c.step o s).2.cache.Sound o := by
  cases c with
  | asking q =>
    cases q with
    | done a => exact ⟨trivial, hs⟩
    | total key goOn => exact ⟨fun known h => hs key known h, hs⟩
    | assign => exact ⟨trivial, hs⟩
  | looked key found goOn =>
    cases found with
    | some known => exact ⟨trivial, hs⟩
    | none => exact ⟨trivial, hs.insert key⟩

theorem step_within (o : ω) (c : Call α) (s : Session μ) :
    s.cache.Within (c.step o s).2.cache := by
  cases c with
  | asking q => cases q <;> exact Cache.Within.refl _
  | looked key found goOn =>
    cases found with
    | some known => exact Cache.Within.refl _
    | none => exact Cache.Within.insert _ _ _

/-- Where all that is found is right, a step does not depend on what is found. -/
theorem step_found {o : ω} {c d : Call α} {s u : Session μ} (hc : c.Sound o) (hd : d.Sound o)
    (same : c.found o = d.found o) (matcher : s.matcher = u.matcher) :
    (c.step o s).1.found o = (d.step o u).1.found o ∧
      (c.step o s).2.matcher = (d.step o u).2.matcher := by
  cases c with
  | asking q =>
    cases d with
    | looked => simp [found] at same
    | asking r =>
      obtain rfl : q = r := by simpa [found] using same
      cases q with
      | done a => exact ⟨rfl, matcher⟩
      | total key goOn => exact ⟨rfl, matcher⟩
      | assign required available goOn =>
        simp only [step, found, matcher]
        exact ⟨trivial, trivial⟩
  | looked key before goOn =>
    cases d with
    | asking => simp [found] at same
    | looked k also go =>
      obtain ⟨rfl, -, rfl⟩ : key = k ∧ key.total o = k.total o ∧ goOn = go := by
        simpa [found] using same
      -- each side has found the total or computes it now
      cases before with
      | none =>
        cases also with
        | none => exact ⟨rfl, matcher⟩
        | some known =>
          rw [hd known rfl]
          exact ⟨rfl, matcher⟩
      | some known =>
        rw [hc known rfl]
        cases also with
        | none => exact ⟨rfl, matcher⟩
        | some other =>
          rw [hd other rfl]
          exact ⟨rfl, matcher⟩

theorem step_rest {o : ω} {c : Call α} {s : Session μ} (hc : c.Sound o) :
    ((c.step o s).1.rest o).answer o (c.step o s).2.matcher = (c.rest o).answer o s.matcher := by
  cases c with
  | asking q => cases q <;> rfl
  | looked key found goOn =>
    cases found with
    | none => rfl
    | some known =>
      rw [hc known rfl]
      rfl

end Call

structure Traffic (ι κ μ : Type) (α : ι → Type) where
  calls : ∀ i, Call (α i)
  caches : κ → Cache
  matcher : μ

namespace Traffic

variable {ι κ : Type} {α : ι → Type}

def start (queries : ∀ i, Query (α i)) (matcher : μ) : Traffic ι κ μ α :=
  ⟨fun i => .asking (queries i), fun _ => ∅, matcher⟩

structure Sound (o : ω) (t : Traffic ι κ μ α) : Prop where
  calls : ∀ i, (t.calls i).Sound o
  caches : ∀ c, (t.caches c).Sound o

theorem sound_start (o : ω) (queries : ∀ i, Query (α i)) (matcher : μ) :
    (start queries matcher : Traffic ι κ μ α).Sound o :=
  ⟨fun _ => trivial, fun _ => Cache.sound_empty o⟩

structure Agrees {κ' : Type} (o : ω) (t : Traffic ι κ μ α) (u : Traffic ι κ' μ α) : Prop where
  calls : ∀ i, (t.calls i).found o = (u.calls i).found o
  matcher : t.matcher = u.matcher

variable [Matcher μ ω] [DecidableEq ι] [DecidableEq κ]

def step (o : ω) (home : ι → κ) (t : Traffic ι κ μ α) (i : ι) : Traffic ι κ μ α :=
  let next := (t.calls i).step o ⟨t.caches (home i), t.matcher⟩
  ⟨Function.update t.calls i next.1, Function.update t.caches (home i) next.2.cache,
    next.2.matcher⟩

def run (o : ω) (home : ι → κ) (t : Traffic ι κ μ α) (schedule : List ι) : Traffic ι κ μ α :=
  schedule.foldl (step o home) t

def after (o : ω) (matcher : μ) (queries : ∀ i, Query (α i)) (home : ι → κ) (schedule : List ι) :
    Traffic ι κ μ α :=
  (start queries matcher).run o home schedule

variable {o : ω} {home : ι → κ} {t : Traffic ι κ μ α}

theorem Sound.step (h : t.Sound o) (i : ι) : (t.step o home i).Sound o := by
  have after := Call.step_sound (s := ⟨t.caches (home i), t.matcher⟩) (h.calls i) (h.caches _)
  constructor
  · intro j
    by_cases hj : j = i
    · subst j
      simpa [Traffic.step] using after.1
    · simpa [Traffic.step, hj] using h.calls j
  · intro c
    by_cases hc : c = home i
    · subst c
      simpa [Traffic.step] using after.2
    · simpa [Traffic.step, hc] using h.caches c

theorem sound_run (h : t.Sound o) (schedule : List ι) : (t.run o home schedule).Sound o := by
  induction schedule generalizing t with
  | nil => exact h
  | cons i rest ih => exact ih (h.step i)

theorem step_within (i : ι) (c : κ) : (t.caches c).Within ((t.step o home i).caches c) := by
  by_cases hc : c = home i
  · subst c
    simpa [Traffic.step] using Call.step_within o (t.calls i) ⟨t.caches (home i), t.matcher⟩
  · simpa [Traffic.step, hc] using Cache.Within.refl _

theorem within_run (schedule : List ι) (c : κ) :
    (t.caches c).Within ((t.run o home schedule).caches c) := by
  induction schedule generalizing t with
  | nil => exact Cache.Within.refl _
  | cons i rest ih => exact (step_within i c).trans ih

section

variable {κ' : Type} [DecidableEq κ'] {home' : ι → κ'} {u : Traffic ι κ' μ α}

theorem Agrees.step (ht : t.Sound o) (hu : u.Sound o) (h : t.Agrees o u) (i : ι) :
    (t.step o home i).Agrees o (u.step o home' i) := by
  have after := Call.step_found (s := ⟨t.caches (home i), t.matcher⟩)
    (u := ⟨u.caches (home' i), u.matcher⟩) (ht.calls i) (hu.calls i) (h.calls i) h.matcher
  constructor
  · intro j
    by_cases hj : j = i
    · subst j
      simpa [Traffic.step] using after.1
    · simpa [Traffic.step, hj] using h.calls j
  · exact after.2

theorem agrees_run (ht : t.Sound o) (hu : u.Sound o) (h : t.Agrees o u) (schedule : List ι) :
    (t.run o home schedule).Agrees o (u.run o home' schedule) := by
  induction schedule generalizing t u with
  | nil => exact h
  | cons i rest ih => exact ih (ht.step i) (hu.step i) (h.step ht hu i)

theorem agrees_after (o : ω) (matcher : μ) (queries : ∀ i, Query (α i)) (home : ι → κ)
    (home' : ι → κ') (schedule : List ι) :
    (after o matcher queries home schedule).Agrees o (after o matcher queries home' schedule) := by
  have begin : (start queries matcher : Traffic ι κ μ α).Agrees o
      (start queries matcher : Traffic ι κ' μ α) := ⟨fun _ => rfl, rfl⟩
  exact agrees_run (sound_start o queries matcher) (sound_start o queries matcher) begin schedule

end

/-- The matcher answers every problem in the same way, whatever it was asked before. -/
def Steady (o : ω) (matcher : μ) : Prop :=
  ∀ required available, (Matcher.solve matcher o required available).2 = matcher

theorem Steady.call_step {matcher : μ} (h : Steady o matcher) {β : Type} (c : Call β) (cache : Cache) :
    (c.step o ⟨cache, matcher⟩).2.matcher = matcher := by
  cases c with
  | asking q =>
    cases q with
    | done => rfl
    | total => rfl
    | assign required available goOn => exact h required available
  | looked key found goOn => cases found <;> rfl

theorem Steady.run {s : Session μ} (h : Steady o s.matcher) {β : Type} (q : Query β) :
    (q.run o s).2.matcher = s.matcher := by
  induction q generalizing s with
  | done a => rfl
  | total key goOn ih =>
    simp only [Query.run]
    split
    · exact ih _ h
    · exact ih _ (s := { s with cache := s.cache.insert key (key.total o) }) h
  | assign required available goOn ih =>
    have same : (Matcher.solve s.matcher o required available).2 = s.matcher := h required available
    rw [Query.run]
    refine (ih _ (s := { s with matcher := (Matcher.solve s.matcher o required available).2 }) ?_).trans
      same
    exact same.symm ▸ h

/-- No step changes what the calls will answer, as long as the matcher does not change. -/
theorem rest_run (h : t.Sound o) (steady : Steady o t.matcher) (schedule : List ι) :
    (t.run o home schedule).matcher = t.matcher ∧ ∀ i,
      (((t.run o home schedule).calls i).rest o).answer o t.matcher =
        ((t.calls i).rest o).answer o t.matcher := by
  induction schedule generalizing t with
  | nil => exact ⟨rfl, fun i => rfl⟩
  | cons i rest ih =>
    have same : (t.step o home i).matcher = t.matcher := steady.call_step (t.calls i) _
    rcases ih (h.step i) (same ▸ steady) with ⟨matcher, calls⟩
    refine ⟨matcher.trans same, ?_⟩
    intro j
    rw [same] at calls
    rw [run, List.foldl_cons]
    refine (calls j).trans ?_
    by_cases hj : j = i
    · subst j
      have one := Call.step_rest (s := ⟨t.caches (home i), t.matcher⟩) (h.calls i)
      rw [steady.call_step] at one
      simpa [Traffic.step] using one
    · simp [Traffic.step, hj]

end Traffic

variable [Matcher μ ω]

def Session.after (o : ω) (earlier : List (Σ β : Type, Query β)) (s : Session μ) : Session μ :=
  earlier.foldl (fun s q => (q.2.run o s).2) s

theorem Session.after_sound {o : ω} (earlier : List (Σ β : Type, Query β)) {s : Session μ}
    (sound : s.cache.Sound o) : (s.after o earlier).cache.Sound o := by
  induction earlier generalizing s with
  | nil => exact sound
  | cons q rest ih => exact ih (Query.run_cache q.2 sound).1

/-- Entries are right and stay, and every answer is the one that an empty cache would have given:
after any earlier queries, and for calls that share caches while others are under way. There the
same calls are compared with each having a cache of its own; if the matcher is steady, they might as
well be made one by one. -/
theorem cache_transparent (o : ω) (matcher : μ) :
    (∀ (earlier : List (Σ β : Type, Query β)) {α : Type} (q : Query α),
      ((Session.fresh matcher).after o earlier).cache.Sound o ∧
      ((Session.fresh matcher).after o earlier).cache.Within
        (q.run o ((Session.fresh matcher).after o earlier)).2.cache ∧
      (q.run o ((Session.fresh matcher).after o earlier)).1 =
        (q.run o (.fresh ((Session.fresh matcher).after o earlier).matcher)).1) ∧
    ∀ {ι κ : Type} [DecidableEq ι] [DecidableEq κ] {α : ι → Type} (queries : ∀ i, Query (α i))
      (home : ι → κ) (schedule more : List ι),
      (∀ c, ((Traffic.after o matcher queries home schedule).caches c).Sound o ∧
        ((Traffic.after o matcher queries home schedule).caches c).Within
          ((Traffic.after o matcher queries home (schedule ++ more)).caches c)) ∧
      (∀ i, ((Traffic.after o matcher queries home schedule).calls i).answer? =
        ((Traffic.after o matcher queries id schedule).calls i).answer?) ∧
      (Traffic.Steady o matcher → ∀ i,
        ((Traffic.after o matcher queries home schedule).calls i).answer? = none ∨
        ((Traffic.after o matcher queries home schedule).calls i).answer? =
          some ((queries i).run o (.fresh matcher)).1) := by
  have empty : ∀ m : μ, (Session.fresh m).cache.Sound o := fun _ => Cache.sound_empty o
  constructor
  · intro earlier α q
    have sound := Session.after_sound earlier (empty matcher)
    refine ⟨sound, (Query.run_cache q sound).2, ?_⟩
    rw [(Query.run_eq_answer q sound).1, (Query.run_eq_answer q (empty _)).1]
    rfl
  · intro ι κ _ _ α queries home schedule more
    have start : (Traffic.start queries matcher : Traffic ι κ μ α).Sound o :=
      Traffic.sound_start o queries matcher
    refine ⟨?_, ?_, ?_⟩
    · intro c
      refine ⟨(Traffic.sound_run start schedule).caches c, ?_⟩
      simpa [Traffic.after, Traffic.run] using Traffic.within_run more c
    · intro i
      have agrees := Traffic.agrees_after o matcher queries home id schedule
      rw [← Call.answer?_found o, agrees.calls i, Call.answer?_found]
    · intro steady i
      have calls : (((Traffic.after o matcher queries home schedule).calls i).rest o).answer o matcher =
          (queries i).answer o matcher := (Traffic.rest_run start steady schedule).2 i
      cases h : ((Traffic.after o matcher queries home schedule).calls i).answer? with
      | none => exact Or.inl rfl
      | some a =>
        rw [Call.rest_of_answer? h] at calls
        rw [(Query.run_eq_answer (queries i) (empty matcher)).1]
        exact Or.inr (congrArg some (congrArg Prod.fst calls))

section Hoists

def hoist : Iri := ⟨"http://team#Hoist"⟩

def lifting : Iri := ⟨"http://team#Lifting"⟩

def carries : Iri := ⟨"http://team#carries"⟩

def hook : Iri := ⟨"http://team#Hook"⟩

def hoists : FactBase :=
  ((∅ : FactBase).addRestriction lifting (.object carries hook 4 .min)).addRestriction hoist
    (.object carries hook 2 .max)

def lifts (i : Fin 3) : Query Support :=
  Organization.support ⟨hoists, { property := carries }, .empty ∅⟩ lifting hoist (i + 1)

/-- All three calls miss the needs of lifting before any of them records these. -/
theorem cache_transparent_hoists : Traffic.Steady hoists (Allocation.mk carries) ∧ ∀ i,
    ((Traffic.after hoists (Allocation.mk carries) lifts (fun _ => ())
      [0, 1, 2, 1, 0, 2, 0, 1, 0, 2, 1, 2]).calls i).answer? =
      some ((lifts i).run hoists (.fresh (Allocation.mk carries))).1 := by
  have steady : Traffic.Steady hoists (Allocation.mk carries) := fun _ _ => rfl
  refine ⟨steady, fun i => ?_⟩
  have shared := (cache_transparent hoists (Allocation.mk carries)).2 lifts (fun _ => ())
    [0, 1, 2, 1, 0, 2, 0, 1, 0, 2, 1, 2] []
  rcases shared.2.2 steady i with missing | right
  · exfalso
    revert missing i
    decide +kernel
  · exact right

end Hoists

end RobotTeam
