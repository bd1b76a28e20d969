import RobotTeam.Query.Basic

/-! What a query answers. Read without any cache, a query computes every total from scratch. Running
it from a cache whose entries are right gives the same answer, asks the matcher the same problems,
and adds right entries only. -/

namespace RobotTeam

variable {ω : Type} [Ontology ω]

namespace Cache

def Sound (o : ω) (c : Cache) : Prop := ∀ key known, c.lookup? key = some known → known = key.total o

def Within (c d : Cache) : Prop := ∀ key known, c.lookup? key = some known → d.lookup? key = some known

theorem Within.refl (c : Cache) : c.Within c := fun _ _ h => h

theorem Within.trans {c d e : Cache} (h : c.Within d) (k : d.Within e) : c.Within e :=
  fun key known hc => k key known (h key known hc)

theorem lookup?_empty (key : TotalKey) : lookup? ∅ key = none := Std.ExtTreeMap.getElem?_empty

theorem sound_empty (o : ω) : Sound o ∅ := by
  intro key known h
  simp [lookup?_empty] at h

theorem lookup?_insert (c : Cache) (key k : TotalKey) (total : List Restriction) :
    (c.insert key total).lookup? k =
      if key = k ∧ c.lookup? key = none then some total else c.lookup? k := by
  simp [lookup?, insert, Std.ExtTreeMap.getElem?_insertIfNew]

theorem Within.insert (c : Cache) (key : TotalKey) (total : List Restriction) :
    c.Within (c.insert key total) := by
  intro k known h
  rw [lookup?_insert, if_neg]
  · exact h
  · rintro ⟨rfl, absent⟩
    simp [absent] at h

theorem Sound.insert {o : ω} {c : Cache} (h : c.Sound o) (key : TotalKey) :
    (c.insert key (key.total o)).Sound o := by
  intro k known hk
  rw [lookup?_insert] at hk
  split at hk
  · next new =>
    rcases new with ⟨rfl, -⟩
    simpa using hk.symm
  · exact h k known hk

end Cache

variable {μ : Type} [Matcher μ ω] {α β : Type}

def Session.fresh (matcher : μ) : Session μ := { matcher := matcher }

namespace Query

/-- The answer with all totals computed from scratch, and what becomes of the matcher. -/
def answer (o : ω) : Query α → μ → α × μ
  | done a, m => (a, m)
  | total key goOn, m => (goOn (key.total o)).answer o m
  | assign required available goOn, m =>
    (goOn (Matcher.solve m o required available).1).answer o (Matcher.solve m o required available).2

theorem bind_assoc {γ : Type} (q : Query α) (f : α → Query β) (g : β → Query γ) :
    (q.bind f).bind g = q.bind fun a => (f a).bind g := by
  induction q with
  | done a => rfl
  | total key goOn ih => exact congrArg (total key) (funext ih)
  | assign required available goOn ih => exact congrArg (assign required available) (funext ih)

theorem bind_done (q : Query α) : q.bind done = q := by
  induction q with
  | done a => rfl
  | total key goOn ih => exact congrArg (total key) (funext ih)
  | assign required available goOn ih => exact congrArg (assign required available) (funext ih)

instance : LawfulMonad Query := LawfulMonad.mk' Query bind_done (fun _ _ => rfl) bind_assoc

theorem run_bind (o : ω) (q : Query α) (f : α → Query β) (s : Session μ) :
    (q >>= f).run o s = (f (q.run o s).1).run o (q.run o s).2 := by
  induction q generalizing s with
  | done a => rfl
  | total key goOn ih =>
    show (total key fun t => (goOn t).bind f).run o s = _
    simp only [run]
    split <;> exact ih _ _
  | assign required available goOn ih => exact ih _ _

theorem answer_bind (o : ω) (q : Query α) (f : α → Query β) (m : μ) :
    (q >>= f).answer o m = (f (q.answer o m).1).answer o (q.answer o m).2 := by
  induction q generalizing m with
  | done a => rfl
  | total key goOn ih => exact ih _ _
  | assign required available goOn ih => exact ih _ _

/-- Running from right entries is reading from scratch. -/
theorem run_eq_answer {o : ω} (q : Query α) {s : Session μ} (sound : s.cache.Sound o) :
    (q.run o s).1 = (q.answer o s.matcher).1 ∧
      (q.run o s).2.matcher = (q.answer o s.matcher).2 := by
  induction q generalizing s with
  | done a => exact ⟨rfl, rfl⟩
  | total key goOn ih =>
    simp only [run, answer]
    split
    · next known hit =>
      rw [← sound key known hit]
      exact ih known sound
    · exact ih _ (s := { s with cache := s.cache.insert key (key.total o) }) (sound.insert key)
  | assign required available goOn ih =>
    exact ih _ (s := { s with matcher := _ }) sound

/-- Queries that leave the matcher alone can be answered one by one. -/
theorem answer_mapM {o : ω} {f : β → Query α} {g : β → α} {m : μ}
    (h : ∀ b, (f b).answer o m = (g b, m)) (bs : List β) :
    (bs.mapM f).answer o m = (bs.map g, m) := by
  induction bs with
  | nil => rfl
  | cons b rest ih =>
    rw [List.mapM_cons, answer_bind, h, answer_bind, ih]
    rfl

theorem answer_foldlM {o : ω} {f : α → β → Query α} {g : α → β → α} {m : μ}
    (h : ∀ a b, (f a b).answer o m = (g a b, m)) (bs : List β) (a : α) :
    (bs.foldlM f a).answer o m = (bs.foldl g a, m) := by
  induction bs generalizing a with
  | nil => rfl
  | cons b rest ih =>
    rw [List.foldlM_cons, answer_bind, h]
    exact ih (g a b)

theorem run_cache {o : ω} (q : Query α) {s : Session μ} (sound : s.cache.Sound o) :
    (q.run o s).2.cache.Sound o ∧ s.cache.Within (q.run o s).2.cache := by
  induction q generalizing s with
  | done a => exact ⟨sound, Cache.Within.refl _⟩
  | total key goOn ih =>
    simp only [run]
    split
    · exact ih _ sound
    · rcases ih (key.total o) (s := { s with cache := s.cache.insert key (key.total o) })
        (sound.insert key) with ⟨after, more⟩
      exact ⟨after, (Cache.Within.insert _ _ _).trans more⟩
  | assign required available goOn ih =>
    exact ih _ (s := { s with matcher := _ }) sound

end Query

namespace Attempt

/-- A refusal ends an attempt; what was asked before stays asked. -/
theorem run_bind (o : ω) (x : Attempt α) (f : α → Attempt β) (s : Session μ) :
    Query.run o (x >>= f : Attempt β) s =
      match (Query.run o x s).1 with
      | .ok a => Query.run o (f a) (Query.run o x s).2
      | .error e => (.error e, (Query.run o x s).2) := by
  show Query.run o (Query.bind x (ExceptT.bindCont f)) s = _
  refine (Query.run_bind o (x : Query (Except QueryError α)) _ s).trans ?_
  cases (Query.run o x s).1 <;> rfl

theorem answer_bind (o : ω) (x : Attempt α) (f : α → Attempt β) (m : μ) :
    Query.answer o (x >>= f : Attempt β) m =
      match (Query.answer o x m).1 with
      | .ok a => Query.answer o (f a) (Query.answer o x m).2
      | .error e => (.error e, (Query.answer o x m).2) := by
  show Query.answer o (Query.bind x (ExceptT.bindCont f)) m = _
  refine (Query.answer_bind o (x : Query (Except QueryError α)) _ m).trans ?_
  cases (Query.answer o x m).1 <;> rfl

theorem run_lift (o : ω) (q : Query α) (s : Session μ) :
    Query.run o (ExceptT.lift q : Attempt α) s = (.ok (q.run o s).1, (q.run o s).2) :=
  Query.run_bind o q _ s

theorem run_ofExcept (o : ω) (e : Except QueryError α) (s : Session μ) :
    Query.run o (liftM e : Attempt α) s = (e, s) := rfl

end Attempt

end RobotTeam
