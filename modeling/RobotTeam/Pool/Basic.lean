import RobotTeam.Count
import RobotTeam.Iri

/-!
Pools of agent models: how many instances of each model there are. Setting and adding never store a
zero, while a pool that was read from a document keeps the zeros it was written with. Pools are equal
when they store the same entries. Adding up is only meant for counts that stay within their limit.
-/

namespace RobotTeam

structure Pool where
  counts : Std.ExtTreeMap Iri Nat
  deriving DecidableEq

namespace Pool

instance : EmptyCollection Pool := ⟨⟨∅⟩⟩
instance : Inhabited Pool := ⟨∅⟩

def entries (p : Pool) : List (Iri × Nat) := p.counts.toList

def count (p : Pool) (model : Iri) : Nat := p.counts.getD model 0

/-- The stored models, also those that are stored with a zero. -/
def models (p : Pool) : List Iri := p.counts.keys

def size (p : Pool) : Nat := p.counts.size

def isEmpty (p : Pool) : Bool := p.counts.isEmpty

def set (p : Pool) (model : Iri) (n : Nat) : Pool :=
  if n = 0 then ⟨p.counts.erase model⟩ else ⟨p.counts.insert model n⟩

def add (p : Pool) (model : Iri) (n : Nat) : Pool :=
  if n = 0 then p else ⟨p.counts.insert model (p.count model + n)⟩

def single (model : Iri) (n : Nat) : Pool := (∅ : Pool).set model n

/-- Adds up the entries; those with a zero leave no trace. -/
def ofEntries (entries : List (Iri × Nat)) : Pool :=
  entries.foldl (fun p e => p.add e.1 e.2) ∅

def ofModels (models : List Iri) : Pool :=
  models.foldl (fun p m => p.add m 1) ∅

def instances (p : Pool) : Nat := Count.sum (p.entries.map Prod.snd)

def isAtomic (p : Pool) : Bool := p.instances == 1

/-- The first stored model of an atomic pool. -/
def atomicModel? (p : Pool) : Option Iri :=
  if p.isAtomic then p.models.head? else none

/-- Cuts every count down to that of the other pool; models the other pool lacks are dropped. -/
def cap (p upper : Pool) : Pool :=
  p.entries.foldl
    (fun r e =>
      match upper.counts[e.1]? with
      | some most => r.set e.1 (min e.2 most)
      | none => r)
    ∅

def Within (p q : Pool) : Prop := ∀ e ∈ p.entries, e.2 ≤ q.count e.1

instance (p q : Pool) : Decidable (Within p q) :=
  inferInstanceAs (Decidable (∀ e ∈ p.entries, e.2 ≤ q.count e.1))

def NoZeros (p : Pool) : Prop := ∀ e ∈ p.entries, 0 < e.2

instance (p : Pool) : Decidable (NoZeros p) :=
  inferInstanceAs (Decidable (∀ e ∈ p.entries, 0 < e.2))

theorem mem_entries {p : Pool} {model : Iri} {n : Nat} :
    (model, n) ∈ p.entries ↔ p.counts[model]? = some n :=
  Std.ExtTreeMap.mem_toList_iff_getElem?_eq_some

@[simp] theorem entries_empty : (∅ : Pool).entries = [] := rfl

theorem noZeros_empty : NoZeros ∅ := by simp [NoZeros]

theorem NoZeros.add {p : Pool} (h : NoZeros p) (model : Iri) (n : Nat) : NoZeros (p.add model n) := by
  unfold Pool.add
  split
  · exact h
  · next hn =>
    intro e he
    have he : (p.counts.insert model (p.count model + n))[e.1]? = some e.2 := mem_entries.1 he
    rw [Std.ExtTreeMap.getElem?_insert] at he
    split at he
    · simp only [Option.some.injEq] at he
      omega
    · exact h e (mem_entries.2 he)

theorem noZeros_ofEntries (entries : List (Iri × Nat)) : NoZeros (ofEntries entries) := by
  suffices ∀ p : Pool, NoZeros p → NoZeros (entries.foldl (fun p e => p.add e.1 e.2) p) from
    this ∅ noZeros_empty
  induction entries with
  | nil => exact fun _ h => h
  | cons e rest ih => exact fun p h => ih _ (h.add e.1 e.2)

def compareEntry : Iri × Nat → Iri × Nat → Ordering :=
  compareLex (compareOn Prod.fst) (compareOn Prod.snd)

instance : Ord Pool where
  compare p q := List.compareLex compareEntry p.entries q.entries

instance : Std.TransCmp compareEntry :=
  inferInstanceAs (Std.TransCmp (compareLex (compareOn Prod.fst) (compareOn Prod.snd)))

instance : Std.LawfulEqCmp compareEntry where
  compare_self {a} := by simp [compareEntry, compareLex, compareOn]
  eq_of_compare {a b} h := by
    simp only [compareEntry, compareLex, compareOn, Ordering.then_eq_eq] at h
    exact Prod.ext (Std.LawfulEqOrd.eq_of_compare h.1) (Std.LawfulEqOrd.eq_of_compare h.2)

theorem ext_entries {p q : Pool} (h : p.entries = q.entries) : p = q := by
  cases p; cases q
  exact congrArg Pool.mk (Std.ExtTreeMap.toList_inj.1 h)

instance : Std.TransOrd Pool where
  eq_swap {p q} := Std.OrientedCmp.eq_swap (a := p.entries) (b := q.entries)
  isLE_trans {p q r} h k :=
    Std.TransCmp.isLE_trans (a := p.entries) (b := q.entries) (c := r.entries) h k

instance : Std.LawfulEqOrd Pool where
  compare_self {p} := Std.ReflCmp.compare_self (a := p.entries)
  eq_of_compare h := ext_entries (Std.LawfulEqCmp.eq_of_compare h)

def render (p : Pool) : String :=
  "ResourcePool:\n" ++ String.join (p.entries.map fun e => s!"    {e.1} : {e.2}\n")

end Pool

end RobotTeam
