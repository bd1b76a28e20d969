import RobotTeam.Proofs.FactBase.Hierarchy
import Mathlib.Data.Nat.Find
import Mathlib.Order.Bounds.Basic

/-! Inherited data values. The search for the classes above a class meets them in the order of their
distance, also where the hierarchy has diamonds or cycles, so that a class without a value of its own
takes the one of a nearest class that has one. -/

namespace RobotTeam

def Declaration.valueOf? (property c : Iri) : Declaration → Option Literal
  | value subject p v => if subject = c ∧ p = property then some v else none
  | _ => none

def Declaration.lastValue? (declarations : List Declaration) (property c : Iri) : Option Literal :=
  declarations.reverse.findSome? (valueOf? property c)

inductive Chain (above : Iri → Iri → Prop) (c : Iri) : ℕ → Iri → Prop where
  | nil : Chain above c 0 c
  | snoc {n d super} : Chain above c n d → above d super → Chain above c (n + 1) super

def Distance (above : Iri → Iri → Prop) (c d : Iri) (n : ℕ) : Prop :=
  IsLeast {k | Chain above c k d} n

namespace Chain

variable {above : Iri → Iri → Prop} {c d : Iri} {n : ℕ}

theorem leads (h : Chain above c n d) : Relation.ReflTransGen above c d := by
  induction h with
  | nil => exact .refl
  | snoc _ right ih => exact ih.tail right

theorem exists_distance (h : Relation.ReflTransGen above c d) : ∃ n, Distance above c d n := by
  have chain : ∃ k, Chain above c k d := by
    induction h with
    | refl => exact ⟨0, .nil⟩
    | tail _ right ih =>
      obtain ⟨k, hk⟩ := ih
      exact ⟨k + 1, hk.snoc right⟩
  classical exact ⟨Nat.find chain, Nat.find_spec chain, fun k hk => Nat.find_min' chain hk⟩

end Chain

namespace FactBase

section Search

variable {f : FactBase} {start c : Iri} {queue rest seen : List Iri} {level : Iri → ℕ}

def Above (f : FactBase) (c super : Iri) : Prop := super ∈ f.above c

variable (f) in
/-- Levels of the known classes under which the search goes on level by level: it has looked at nothing
from where a class more than one level further up is seen, and what is known is at most one level
further up than what waits. -/
structure Leveled (start : Iri) (queue seen : List Iri) (level : Iri → ℕ) : Prop where
  bottom : level start = 0
  chain : ∀ c ∈ start :: seen, Chain f.Above start (level c) c
  near : ∀ c ∈ start :: seen, c ∉ queue → ∀ s ∈ f.above c, level s ≤ level c + 1
  ordered : (start :: seen).Pairwise fun a b => level a ≤ level b
  waiting : queue.Pairwise fun a b => level a ≤ level b
  band : ∀ c ∈ queue, ∀ s ∈ start :: seen, level s ≤ level c + 1

theorem leveled_start (f : FactBase) (start : Iri) : f.Leveled start [start] [] fun _ => 0 where
  bottom := rfl
  chain := by
    intro c hc
    rw [List.mem_singleton.mp hc]
    exact .nil
  near := by simp
  ordered := List.pairwise_singleton _ _
  waiting := List.pairwise_singleton _ _
  band := by simp

def raise (level : Iri → ℕ) (fresh : List Iri) (n : ℕ) (c : Iri) : ℕ :=
  if c ∈ fresh then n else level c

theorem raise_of_fresh {fresh : List Iri} (h : c ∈ fresh) (n : ℕ) : raise level fresh n c = n :=
  if_pos h

theorem raise_of_known (h : c ∈ start :: seen) (d : Iri) (n : ℕ) :
    raise level (f.fresh start d seen) n c = level c := by
  apply if_neg
  rw [mem_fresh]
  rintro ⟨-, other, new⟩
  exact (List.mem_cons.mp h).elim other new

theorem ordered_append_fresh {classes : List Iri} {n : ℕ} (d : Iri)
    (known : ∀ a ∈ classes, a ∈ start :: seen)
    (ordered : classes.Pairwise fun a b => level a ≤ level b) (le : ∀ a ∈ classes, level a ≤ n) :
    (classes ++ f.fresh start d seen).Pairwise fun a b =>
      raise level (f.fresh start d seen) n a ≤ raise level (f.fresh start d seen) n b := by
  refine List.pairwise_append.mpr ⟨?_, List.pairwise_of_forall_mem_list ?_, ?_⟩
  · refine ordered.imp_of_mem ?_
    intro a b ha hb le
    rwa [raise_of_known (known a ha), raise_of_known (known b hb)]
  · intro a ha b hb
    rw [raise_of_fresh ha, raise_of_fresh hb]
  · intro a ha b hb
    rw [raise_of_known (known a ha), raise_of_fresh hb]
    exact le a ha

/-- The classes that come up are one level above the one that is looked at. -/
theorem Leveled.step (climbed : f.Climbed start (c :: rest) seen)
    (h : f.Leveled start (c :: rest) seen level) :
    f.Leveled start (rest ++ f.fresh start c seen) (seen ++ f.fresh start c seen)
      (raise level (f.fresh start c seen) (level c + 1)) := by
  have queued : ∀ d ∈ c :: rest, d ∈ start :: seen :=
    fun d hd => List.mem_cons.mpr (climbed.queued d hd)
  have waits : ∀ d ∈ rest, d ∈ start :: seen :=
    fun d hd => queued d (List.mem_cons_of_mem c hd)
  have below : ∀ d ∈ start :: seen, level d ≤ level c + 1 := h.band c List.mem_cons_self
  obtain ⟨first, later⟩ := List.pairwise_cons.mp h.waiting
  have split : ∀ d ∈ start :: (seen ++ f.fresh start c seen),
      d ∈ start :: seen ∨ d ∈ f.fresh start c seen := by
    intro d hd
    exact List.mem_append.mp hd
  constructor
  case bottom =>
    rw [raise_of_known List.mem_cons_self]
    exact h.bottom
  case chain =>
    intro d hd
    rcases split d hd with hd | hd
    · rw [raise_of_known hd]
      exact h.chain d hd
    · rw [raise_of_fresh hd]
      exact (h.chain c (queued c List.mem_cons_self)).snoc (mem_fresh.mp hd).1
  case near =>
    intro d hd waits s above
    rw [List.mem_append, not_or] at waits
    have known : d ∈ start :: seen := (split d hd).resolve_right waits.2
    rw [raise_of_known known]
    by_cases same : d = c
    · subst same
      by_cases met : s ∈ start :: seen
      · rw [raise_of_known met]
        exact below s met
      · rw [List.mem_cons, not_or] at met
        exact (raise_of_fresh (mem_fresh.mpr ⟨above, met⟩) _).le
    · have done : d ∉ c :: rest := by simp [same, waits.1]
      have met := climbed.looked d (List.mem_cons.mp known) done s above
      rw [raise_of_known (List.mem_cons.mpr met)]
      exact h.near d known done s above
  case ordered => exact ordered_append_fresh c (fun _ ha => ha) h.ordered below
  case waiting => exact ordered_append_fresh c waits later fun a ha => below a (waits a ha)
  case band =>
    -- what waits is at least on the level of the class that is looked at
    have least : ∀ d ∈ rest ++ f.fresh start c seen,
        level c ≤ raise level (f.fresh start c seen) (level c + 1) d := by
      intro d hd
      rcases List.mem_append.mp hd with hd | hd
      · rw [raise_of_known (waits d hd)]
        exact first d hd
      · rw [raise_of_fresh hd]
        exact Nat.le_succ _
    have most : ∀ s ∈ start :: (seen ++ f.fresh start c seen),
        raise level (f.fresh start c seen) (level c + 1) s ≤ level c + 1 := by
      intro s hs
      rcases split s hs with hs | hs
      · rw [raise_of_known hs]
        exact below s hs
      · exact (raise_of_fresh hs _).le
    intro d hd s hs
    exact (most s hs).trans (Nat.succ_le_succ (least d hd))

theorem Leveled.climb (climbed : f.Climbed start queue seen)
    (h : ∃ level, f.Leveled start queue seen level) :
    ∃ level, f.Leveled start [] (f.climb start queue seen) level := by
  induction queue, seen using FactBase.climb.induct f start with
  | case1 seen =>
    rw [FactBase.climb]
    exact h
  | case2 seen c rest fresh ih =>
    rw [FactBase.climb]
    obtain ⟨level, leveled⟩ := h
    exact ih climbed.step ⟨_, leveled.step climbed⟩

theorem Leveled.level_le {n : ℕ} (climbed : f.Climbed start [] seen) (h : f.Leveled start [] seen level)
    (chain : Chain f.Above start n c) : c ∈ start :: seen ∧ level c ≤ n := by
  induction chain with
  | nil => exact ⟨List.mem_cons_self, h.bottom.le⟩
  | @snoc n d super _ above ih =>
    refine ⟨?_, (h.near d ih.1 List.not_mem_nil super above).trans (Nat.succ_le_succ ih.2)⟩
    rw [List.mem_cons]
    exact climbed.looked d (List.mem_cons.mp ih.1) List.not_mem_nil super above

/-- Nearer classes are met first. -/
theorem ordered_ancestors (f : FactBase) (c : Iri) : (c :: f.ancestors c).Pairwise fun a b =>
    ∀ m n, Distance f.Above c a m → Distance f.Above c b n → m ≤ n := by
  have climbed := climbed_ancestors f c
  obtain ⟨level, leveled⟩ := Leveled.climb (climbed_start f c) ⟨_, leveled_start f c⟩
  refine leveled.ordered.imp_of_mem ?_
  intro a b ha hb le m n hm hn
  calc m ≤ level a := hm.2 (leveled.chain a ha)
    _ ≤ level b := le
    _ ≤ n := (leveled.level_le climbed hn.1).2

theorem mem_self_or_ancestors {a : Iri} :
    a ∈ c :: f.ancestors c ↔ Relation.ReflTransGen f.Above c a := by
  rw [List.mem_cons, mem_ancestors]
  constructor
  · rintro (rfl | ⟨-, chain⟩)
    · exact .refl
    · exact chain
  · intro chain
    by_cases same : a = c
    · exact Or.inl same
    · exact Or.inr ⟨same, chain⟩

end Search

section Values

variable {c property : Iri}

theorem ownValue?_declare (f : FactBase) (d : Declaration) :
    (f.declare d).ownValue? property c = (d.valueOf? property c).or (f.ownValue? property c) := by
  cases d with
  | value e p v =>
    show ((f.data.insert e ((f.data.getD e ∅).insert p v)).getD c ∅)[property]? = _
    rw [Std.ExtTreeMap.getD_insert]
    by_cases subject : e = c
    · subst subject
      rw [if_pos Std.ReflCmp.compare_self, Std.ExtTreeMap.getElem?_insert]
      by_cases same : p = property
      · rw [if_pos (Std.LawfulEqCmp.compare_eq_iff_eq.mpr same)]
        simp [Declaration.valueOf?, same]
      · rw [if_neg (mt Std.LawfulEqCmp.eq_of_compare same)]
        simp [Declaration.valueOf?, same, ownValue?]
    · rw [if_neg (mt Std.LawfulEqCmp.eq_of_compare subject)]
      simp [Declaration.valueOf?, subject, ownValue?]
  | ofClass e => rfl
  | superclass e above => rfl
  | restriction e r => rfl

theorem ownValue?_ofDeclarations (declarations : List Declaration) :
    (ofDeclarations declarations).ownValue? property c =
      Declaration.lastValue? declarations property c := by
  suffices ∀ f : FactBase, (declarations.foldl declare f).ownValue? property c =
      (Declaration.lastValue? declarations property c).or (f.ownValue? property c) by
    have none : (∅ : FactBase).ownValue? property c = none := by
      show ((∅ : Std.ExtTreeMap Iri (Std.ExtTreeMap Iri Literal)).getD c ∅)[property]? = none
      simp
    rw [ofDeclarations, this, none, Option.or_none]
  induction declarations with
  | nil => exact fun f => rfl
  | cons d rest ih =>
    intro f
    rw [List.foldl_cons, ih, ownValue?_declare, ← Option.or_assoc]
    simp [Declaration.lastValue?]

end Values

def DeclaredAbove (declarations : List Declaration) (c super : Iri) : Prop :=
  Declaration.superclass c super ∈ declarations

theorem above_ofDeclarations (declarations : List Declaration) :
    (ofDeclarations declarations).Above = DeclaredAbove declarations :=
  funext fun _ => funext fun _ => propext mem_above_ofDeclarations

/-- Whatever was declared, a class has a value unless no class that it is or lies below was given one,
and its value is the last one that was given to a nearest class of those that were given one. -/
theorem value_nearest (declarations : List Declaration) (c property : Iri) :
    (Ontology.value? (ofDeclarations declarations) c property = none ↔
      ∀ a, Relation.ReflTransGen (DeclaredAbove declarations) c a →
        Declaration.lastValue? declarations property a = none) ∧
    ∀ v, Ontology.value? (ofDeclarations declarations) c property = some v →
      ∃ a n, Declaration.lastValue? declarations property a = some v ∧
        Distance (DeclaredAbove declarations) c a n ∧
        ∀ b m, (Declaration.lastValue? declarations property b).isSome →
          Distance (DeclaredAbove declarations) c b m → n ≤ m := by
  rw [← above_ofDeclarations]
  have own : ∀ a, Declaration.lastValue? declarations property a =
      (ofDeclarations declarations).ownValue? property a :=
    fun a => (ownValue?_ofDeclarations declarations).symm
  simp only [own]
  constructor
  · show List.findSome? _ _ = none ↔ _
    simp only [List.findSome?_eq_none_iff, mem_self_or_ancestors]
  · intro v found
    obtain ⟨before, a, after, split, hit, missed⟩ := List.findSome?_eq_some_iff.mp found
    have order := ordered_ancestors (ofDeclarations declarations) c
    have reached : ∀ b, b ∈ before ++ a :: after ↔
        Relation.ReflTransGen (ofDeclarations declarations).Above c b := by
      intro b
      rw [← split]
      exact mem_self_or_ancestors
    obtain ⟨n, hn⟩ := Chain.exists_distance ((reached a).mp (by simp))
    refine ⟨a, n, hit, hn, ?_⟩
    intro b m carries hm
    rw [split] at order
    have later := (List.pairwise_cons.mp (List.pairwise_append.mp order).2.1).1
    have place := (reached b).mpr hm.1.leads
    rcases List.mem_append.mp place with early | place
    · rw [missed b early] at carries
      cases carries
    · rcases List.mem_cons.mp place with rfl | late
      · exact hn.2 hm.1
      · exact later b late n m hn hm

end FactBase

end RobotTeam
