import Std.Data.ExtTreeSet
import RobotTeam.Ontology

/-!
A fact base in memory. Its classes are whatever facts mention as a subject or as a superclass; cycles
in the hierarchy are allowed. Data values are inherited from the nearest class that has one.
-/

namespace RobotTeam

structure FactBase where
  superclasses : Std.ExtTreeMap Iri (Std.ExtTreeSet Iri)
  declared : Std.ExtTreeMap Iri (List Restriction)
  data : Std.ExtTreeMap Iri (Std.ExtTreeMap Iri Literal)

namespace FactBase

instance : EmptyCollection FactBase := ⟨⟨∅, ∅, ∅⟩⟩
instance : Inhabited FactBase := ⟨∅⟩

def addClass (f : FactBase) (c : Iri) : FactBase :=
  { f with superclasses := f.superclasses.insertIfNew c ∅ }

def addSuperclass (f : FactBase) (c super : Iri) : FactBase :=
  let f := f.addClass super
  { f with superclasses := f.superclasses.insert c ((f.superclasses.getD c ∅).insert super) }

def addRestriction (f : FactBase) (c : Iri) (r : Restriction) : FactBase :=
  let f := f.addClass c
  { f with declared := f.declared.insert c (f.declared.getD c [] ++ [r]) }

/-- A later value of the same property replaces an earlier one. -/
def addValue (f : FactBase) (c property : Iri) (value : Literal) : FactBase :=
  let f := f.addClass c
  { f with data := f.data.insert c ((f.data.getD c ∅).insert property value) }

def classes (f : FactBase) : List Iri := f.superclasses.keys

def above (f : FactBase) (c : Iri) : List Iri := (f.superclasses.getD c ∅).toList

def allAbove (f : FactBase) : List Iri := f.superclasses.toList.flatMap fun e => e.2.toList

theorem mem_allAbove {f : FactBase} {c super : Iri} (h : super ∈ f.above c) :
    super ∈ f.allAbove := by
  unfold above at h
  rw [Std.ExtTreeMap.getD_eq_getD_getElem?] at h
  cases e : f.superclasses[c]? with
  | none =>
    rw [e] at h
    exact absurd h (by simp [Std.ExtTreeSet.mem_toList])
  | some set =>
    rw [e] at h
    exact List.mem_flatMap.2 ⟨(c, set), Std.ExtTreeMap.mem_toList_iff_getElem?_eq_some.2 e, h⟩

theorem countP_lt_of_mem {α : Type} {p q : α → Bool} {l : List α} (le : ∀ x ∈ l, q x → p x)
    {x : α} (hx : x ∈ l) (hp : p x = true) (hq : q x = false) : l.countP q < l.countP p := by
  induction l with
  | nil => simp at hx
  | cons y rest ih =>
    have tail : rest.countP q ≤ rest.countP p :=
      List.countP_mono_left fun z hz => le z (List.mem_cons_of_mem y hz)
    rcases List.mem_cons.1 hx with rfl | hx
    · simp only [List.countP_cons, hp, hq]
      simp only [Bool.false_eq_true, if_false, if_true]
      omega
    · have := ih (fun z hz => le z (List.mem_cons_of_mem y hz)) hx
      simp only [List.countP_cons]
      by_cases h : q y = true
      · rw [if_pos h, if_pos (le y List.mem_cons_self h)]
        omega
      · rw [if_neg h]
        omega

/-- Walks up the hierarchy, level by level. `queue` holds the classes whose superclasses are still to
be looked at, `seen` all superclasses met so far in the order in which they were met. -/
def climb (f : FactBase) (start : Iri) (queue seen : List Iri) : List Iri :=
  match queue with
  | [] => seen
  | c :: rest =>
    let fresh := (f.above c).filter fun s => s ≠ start && !seen.contains s
    f.climb start (rest ++ fresh) (seen ++ fresh)
termination_by (f.allAbove.countP (!seen.contains ·), queue.length)
decreasing_by
  cases e : (f.above c).filter fun s => s ≠ start && !seen.contains s with
  | nil =>
    simp only [List.append_nil]
    exact Prod.Lex.right _ (by simp)
  | cons x more =>
    have hx : x ∈ (f.above c).filter fun s => s ≠ start && !seen.contains s := by
      rw [e]; exact List.mem_cons_self
    rw [List.mem_filter] at hx
    refine Prod.Lex.left _ _ (countP_lt_of_mem (x := x) ?_ (mem_allAbove hx.1) ?_ ?_)
    · intro y _ hy
      simp only [List.contains_eq_mem, List.mem_append, Bool.not_eq_true',
        decide_eq_false_iff_not, not_or] at hy ⊢
      exact hy.1
    · simp only [Bool.and_eq_true] at hx
      exact hx.2.2
    · simp

/-- The classes above a class, nearest first, without the class itself. -/
def ancestors (f : FactBase) (c : Iri) : List Iri := f.climb c [c] []

def isSubclass (f : FactBase) (c super : Iri) : Bool :=
  c == super || (f.ancestors c).contains super

def subclasses (f : FactBase) (c : Iri) (direct : Bool) : List Iri :=
  f.classes.filter fun below =>
    below != c && (if direct then (f.above below).contains c else f.isSubclass below c)

def restrictions (f : FactBase) (c property : Iri) (qualification : Option Iri) :
    List Restriction :=
  (f.declared.getD c []).filter fun r =>
    r.property == property && qualification.all (r.qualification == ·)

def ownValue? (f : FactBase) (property c : Iri) : Option Literal := (f.data.getD c ∅)[property]?

def value? (f : FactBase) (c property : Iri) : Option Literal :=
  (c :: f.ancestors c).findSome? (f.ownValue? property)

instance : Ontology FactBase where
  isSubclass := isSubclass
  subclasses := subclasses
  restrictions := restrictions
  value? := value?

end FactBase

end RobotTeam
