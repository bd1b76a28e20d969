import RobotTeam.Document.Configurations
import RobotTeam.Document.FactBases
import RobotTeam.Proofs.Document.JsonValues

/-! What is written as JSON is read back as the same value, as long as its numbers are within the widths
that documents give them and its doubles are finite: zeros of a pool, the order of a combination, the
kind beside the type of a restriction, and whether a number is an integer or a double. -/

namespace RobotTeam

open Codec

section Names

theorem Iri.roundTrips (i : Iri) : RoundTrips i := by
  have written : Json.ofDatum (write i) = .text i.text := Json.ofDatum_text i.text
  rw [RoundTrips, written]
  rfl

theorem Kind.ofText?_text (k : Kind) : ofText? k.text = some k := by
  cases k <;> decide

theorem Kind.word?_written (k : Kind) (isNothing : Datum → Bool) :
    (Datum.word? isNothing (Json.ofDatum (write k))).bind ofText? = some k := by
  have written : Json.ofDatum (write k) = .text k.text := Json.ofDatum_text k.text
  rw [written]
  exact k.ofText?_text

theorem Kind.roundTrips (k : Kind) : RoundTrips k := k.word?_written _

theorem Support.ofKey?_key (s : Support) : ofKey? s.key = some s := by
  cases s <;> decide

theorem Support.roundTrips (s : Support) : RoundTrips s := by
  have written : Json.ofDatum (write s) = .text s.key := Json.ofDatum_text s.key
  rw [RoundTrips, written]
  exact s.ofKey?_key

end Names

section Pools

theorem Codec.byModel?_written {α : Type} {number? : Datum → Option α} {write : α → Datum}
    {entries : List (Iri × α)} (h : ∀ e ∈ entries, number? (Json.ofDatum (write e.2)) = some e.2) :
    byModel? number? (entries.map fun e => (e.1.text, Json.ofDatum (write e.2))) = some entries := by
  refine mapM_map_of_forall fun e he => ?_
  rw [h e he]
  rfl

def Pool.Writable (p : Pool) : Prop := ∀ e ∈ p.entries, e.2 ≤ Count.limit

theorem Pool.Writable.roundTrips {p : Pool} (h : p.Writable) : RoundTrips p := by
  have written : Json.ofDatum (write p) =
      .record (p.entries.map fun e => (e.1.text, Json.ofDatum (writeNat e.2))) := by
    refine (Json.ofDatum_record _).trans ?_
    rw [List.map_map]
    rfl
  have entries : byModel? count? _ = _ := byModel?_written fun e he => count?_written (h e he)
  rw [RoundTrips, written]
  refine (congrArg (Option.map _) entries).trans ?_
  rw [Option.map_some, Pool.entries, ExtTreeMap.ofList_toList]

def Delta.Writable (d : Delta) : Prop := ∀ e ∈ d.entries, Width.least ≤ e.2 ∧ e.2 ≤ Width.most

theorem Delta.Writable.roundTrips {d : Delta} (h : d.Writable) : RoundTrips d := by
  have written : Json.ofDatum (write d) =
      .record (d.entries.map fun e => (e.1.text, Json.ofDatum (.integer e.2))) := by
    refine (Json.ofDatum_record _).trans ?_
    rw [List.map_map]
    rfl
  have entries : byModel? Delta.count? _ = _ :=
    byModel?_written fun e he => integerIn?_written (h e he)
  rw [RoundTrips, written]
  refine (congrArg (Option.map _) entries).trans ?_
  rw [Option.map_some, Delta.entries, ExtTreeMap.ofList_toList]

theorem Combination.roundTrips (c : Combination) : RoundTrips c := by
  have models : read? .json (Json.ofDatum (write c.models)) = some c.models :=
    roundTrips_list fun model _ => model.roundTrips
  exact congrArg (Option.map Combination.mk) models

end Pools

section Restrictions

def Restriction.Writable (r : Restriction) : Prop := r.cardinality ≤ Count.limit

theorem Restriction.eq_of_parts (r : Restriction) :
    some (⟨r.property, if r.isObject then .ofClass r.qualification else .ofDatatype r.qualification,
      r.cardinality, r.kind⟩ : Restriction) = some r := by
  rcases r with ⟨property, filler, cardinality, kind⟩
  cases filler <;> rfl

theorem Restriction.Writable.roundTrips {r : Restriction} (h : r.Writable) : RoundTrips r := by
  have property : read? .json _ = _ := r.property.roundTrips
  have filler : read? .json _ = _ := r.qualification.roundTrips
  have cardinality := count?_written h
  have kind := r.kind.word?_written Restriction.isNothing
  have type : Restriction.isClass? (.text (Restriction.typeText r.isObject)) = some r.isObject := by
    cases r.isObject <;> decide
  have distinct : ∀ name ∈ ["type", "property", "cardinality", "kind"],
      name ≠ Restriction.fillerField r.isObject := by
    cases r.isObject <;> decide
  refine roundTrips_record rfl ?_
  refine bind_eq_some (bind_eq_some ?_ rfl) (bind_eq_some rfl (bind_eq_some ?_
    (bind_eq_some ?_ (bind_eq_some ?_ (bind_eq_some ?_ r.eq_of_parts)))))
  · simp [Json.ofDatum_text, type]
  · simp [property]
  · simp [filler, (distinct _ _).symm]
  · simp [cardinality, distinct]
  · simp [kind, distinct]

structure Bound.Writable (b : Bound) : Prop where
  min_le : b.min ≤ Count.limit
  max_le : b.max ≤ Count.limit

theorem Bound.Writable.roundTrips {b : Bound} (h : b.Writable) : RoundTrips b := by
  have model : read? .json _ = _ := b.model.roundTrips
  have least := count?_written h.min_le
  have most := count?_written h.max_le
  refine roundTrips_record rfl ?_
  refine bind_eq_some rfl (bind_eq_some ?_ (bind_eq_some ?_ (bind_eq_some ?_ rfl)))
  · simp [model]
  · simp [least]
  · simp [most]

def Assignment.Writable (a : Assignment) : Prop := a.count ≤ Count.limit

theorem Assignment.Writable.roundTrips {a : Assignment} (h : a.Writable) : RoundTrips a := by
  have required : read? .json _ = _ := a.required.roundTrips
  have available : read? .json _ = _ := a.available.roundTrips
  have count := count?_written h
  refine roundTrips_record rfl ?_
  refine bind_eq_some rfl (bind_eq_some ?_ (bind_eq_some ?_ (bind_eq_some ?_ rfl)))
  · simp [required]
  · simp [available]
  · simp [count]

def Solution.Writable (s : Solution) : Prop := ∀ a ∈ s.assignments, a.Writable

theorem Solution.Writable.roundTrips {s : Solution} (h : s.Writable) : RoundTrips s := by
  have assignments : read? .json _ = _ := roundTrips_list fun a ha => (h a ha).roundTrips
  refine roundTrips_record rfl ?_
  refine bind_eq_some rfl (bind_eq_some ?_ rfl)
  simp [assignments]

def Literal.Writable : Literal → Prop
  | integer n => Width.fits n = true
  | double x => Json.isFinite x = true
  | text _ => True

theorem Literal.Writable.roundTrips {l : Literal} (h : l.Writable) : RoundTrips l := by
  cases l with
  | integer n =>
    have written : Json.ofDatum (write (Literal.integer n)) = .integer n := Json.ofDatum_integer n
    rw [RoundTrips, written]
    exact if_pos h
  | double x =>
    have written : Json.ofDatum (write (Literal.double x)) = .double x := Json.ofDatum_double h
    rw [RoundTrips, written]
    rfl
  | text s =>
    have written : Json.ofDatum (write (Literal.text s)) = .text s := Json.ofDatum_text s
    rw [RoundTrips, written]
    rfl

end Restrictions

section Facts

def RestrictionFact.Writable (r : RestrictionFact) : Prop := r.cardinality ≤ Count.limit

theorem RestrictionFact.Writable.roundTrips {r : RestrictionFact} (h : r.Writable) :
    RoundTrips r := by
  have property : read? .json _ = _ := roundTrips_text r.property
  have kind : read? .json _ = _ := r.kind.roundTrips
  have qualification : read? .json _ = _ := roundTrips_text r.qualification
  have cardinality := count?_written h
  refine roundTrips_record rfl ?_
  refine bind_eq_some rfl (bind_eq_some ?_ (bind_eq_some ?_ (bind_eq_some ?_
    (bind_eq_some ?_ rfl))))
  · simp [property]
  · simp [kind]
  · simp [qualification]
  · simp [cardinality]

structure ClassFacts.Writable (c : ClassFacts) : Prop where
  restrictions : ∀ r ∈ c.restrictions, r.Writable
  data : ∀ e ∈ c.data.toList, e.2.Writable

theorem ClassFacts.Writable.roundTrips {c : ClassFacts} (h : c.Writable) : RoundTrips c := by
  have superclasses : read? .json _ = _ := roundTrips_list fun s (_ : s ∈ c.superclasses) =>
    roundTrips_text s
  have restrictions : read? .json _ = _ := roundTrips_list fun r hr => (h.restrictions r hr).roundTrips
  have data : read? .json _ = _ := roundTrips_map fun e he => (h.data e he).roundTrips
  refine roundTrips_record rfl ?_
  refine bind_eq_some rfl (bind_eq_some ?_ (bind_eq_some ?_ (bind_eq_some ?_ rfl)))
  · simp [superclasses]
  · simp [restrictions]
  · simp [data]

def Facts.Writable (f : Facts) : Prop := ∀ e ∈ f.classes.toList, e.2.Writable

theorem Facts.Writable.roundTrips {f : Facts} (h : f.Writable) : RoundTrips f := by
  have space : read? .json _ = _ := roundTrips_text f.space
  have classes : read? .json _ = _ := roundTrips_map fun e he => (h e he).roundTrips
  refine roundTrips_record rfl ?_
  refine bind_eq_some rfl (bind_eq_some ?_ (bind_eq_some ?_ rfl))
  · simp [space]
  · simp [classes]

end Facts

section Configurations

theorem Codec.roundTrips_name (name : Option String) : RoundTrips name := by
  cases name with
  | none => exact roundTrips_none
  | some s =>
    have written : Json.ofDatum (write s) = .text s := Json.ofDatum_text s
    exact roundTrips_some (roundTrips_text s) (by simp [written])

theorem Codec.roundTrips_probability {p : Option Float}
    (finite : ∀ x ∈ p, Json.isFinite x = true) : RoundTrips p := by
  cases p with
  | none => exact roundTrips_none
  | some x =>
    have written : Json.ofDatum (write x) = .double x := Json.ofDatum_double (finite x rfl)
    exact roundTrips_some (roundTrips_double (finite x rfl)) (by simp [written])

def Settings.LimitWritable (limit : Option ℕ) : Prop := ∀ n ∈ limit, n ≤ Width.mostUnsigned

theorem Settings.LimitWritable.written {limit : Option ℕ} (h : LimitWritable limit) :
    limit? (Json.ofDatum (writeLimit limit)) = some limit := by
  cases limit with
  | none =>
    rw [writeLimit, Json.ofDatum_null]
    rfl
  | some n =>
    have fits : natUpTo? Width.mostUnsigned (.integer n) = some n := by
      rw [← Json.ofDatum_integer]
      exact natUpTo?_written (h n rfl)
    rw [writeLimit, writeNat, Json.ofDatum_integer]
    exact congrArg (Option.map some) fits

def Settings.Writable (s : Settings) : Prop := LimitWritable s.maxCombinations

theorem Settings.Writable.roundTrips {s : Settings} (h : s.Writable) : RoundTrips s := by
  have property : read? .json _ = _ := s.property.roundTrips
  have serviceRoot : read? .json _ = _ := s.serviceRoot.roundTrips
  have limit := LimitWritable.written h
  refine roundTrips_record rfl ?_
  refine bind_eq_some rfl (bind_eq_some ?_ (bind_eq_some ?_ (bind_eq_some ?_ rfl)))
  · simp [property]
  · simp [serviceRoot]
  · simp [limit]

theorem AskSection.roundTrips {s : AskSection} (h : Settings.LimitWritable s.maxCombinations) :
    RoundTrips s := by
  have property : read? .json _ = _ := roundTrips_name s.property
  have serviceRoot : read? .json _ = _ := roundTrips_name s.serviceRoot
  have limit := h.written
  refine roundTrips_record rfl ?_
  refine bind_eq_some rfl (bind_eq_some ?_ (bind_eq_some ?_ (bind_eq_some ?_ rfl)))
  · simp [property]
  · simp [serviceRoot]
  · simp [limit]

theorem MetricSection.roundTrips {s : MetricSection} (h : ∀ x ∈ s.survival, Json.isFinite x = true) :
    RoundTrips s := by
  have survival : read? .json _ = _ := roundTrips_probability h
  have failureProperty : read? .json _ = _ := roundTrips_name s.failureProperty
  refine roundTrips_record rfl ?_
  refine bind_eq_some rfl (bind_eq_some ?_ (bind_eq_some ?_ rfl))
  · simp [survival]
  · simp [failureProperty]

structure Configuration.Writable (c : Configuration) : Prop where
  limit : Settings.LimitWritable c.ask.maxCombinations
  survival : ∀ x ∈ c.metrics.survival, Json.isFinite x = true

theorem Configuration.Writable.roundTrips {c : Configuration} (h : c.Writable) : RoundTrips c := by
  have ask : read? .json _ = _ := AskSection.roundTrips h.limit
  have metrics : read? .json _ = _ := MetricSection.roundTrips h.survival
  refine roundTrips_record rfl ?_
  refine bind_eq_some rfl (bind_eq_some ?_ (bind_eq_some ?_ rfl))
  · simp [ask]
  · simp [metrics]

end Configurations

/-- Every value comes back from its JSON, if its numbers fit their widths and its doubles are finite. -/
theorem Codec.read_write_json :
    (∀ i : Iri, RoundTrips i) ∧
    (∀ p : Pool, p.Writable → RoundTrips p) ∧
    (∀ d : Delta, d.Writable → RoundTrips d) ∧
    (∀ c : Combination, RoundTrips c) ∧
    (∀ r : Restriction, r.Writable → RoundTrips r) ∧
    (∀ b : Bound, b.Writable → RoundTrips b) ∧
    (∀ s : Solution, s.Writable → RoundTrips s) ∧
    (∀ s : Support, RoundTrips s) ∧
    (∀ l : Literal, l.Writable → RoundTrips l) ∧
    (∀ s : Settings, s.Writable → RoundTrips s) ∧
    (∀ f : Facts, f.Writable → RoundTrips f) ∧
    ∀ c : Configuration, c.Writable → RoundTrips c :=
  ⟨Iri.roundTrips, fun _ h => h.roundTrips, fun _ h => h.roundTrips, Combination.roundTrips,
    fun _ h => h.roundTrips, fun _ h => h.roundTrips, fun _ h => h.roundTrips, Support.roundTrips,
    fun _ h => h.roundTrips, fun _ h => h.roundTrips, fun _ h => h.roundTrips,
    fun _ h => h.roundTrips⟩

/-- A stored zero comes back, and so do the data and the restrictions of a described class. -/
theorem Codec.read_write_json_hoist :
    let arm : Iri := ⟨"http://team#Arm"⟩
    let hook : Iri := ⟨"http://team#Hook"⟩
    let pool : Pool := ⟨Std.ExtTreeMap.ofList [(arm, 0), (hook, Count.limit)]⟩
    let hoist : ClassFacts := ⟨["Service"], [⟨"has", .exact, "Hook", 1⟩],
      Std.ExtTreeMap.ofList [("load", Literal.integer (-3))]⟩
    let facts : Facts := ⟨"http://team#", Std.ExtTreeMap.ofList [("Hoist", hoist)]⟩
    pool.Writable ∧ RoundTrips pool ∧ facts.Writable ∧ RoundTrips facts := by
  intro arm hook pool hoist facts
  have counts : pool.Writable := by
    unfold Pool.Writable
    decide
  have exactly : RestrictionFact.Writable ⟨"has", .exact, "Hook", 1⟩ := by
    unfold RestrictionFact.Writable
    decide
  have load : Literal.Writable (.integer (-3)) := rfl
  have data : hoist.data.toList = [("load", Literal.integer (-3))] := rfl
  have classes : facts.classes.toList = [("Hoist", hoist)] := rfl
  have described : facts.Writable := by
    rw [Facts.Writable, classes, List.forall_mem_singleton]
    constructor
    · rwa [List.forall_mem_singleton]
    · rwa [data, List.forall_mem_singleton]
  exact ⟨counts, read_write_json.2.1 pool counts, described,
    read_write_json.2.2.2.2.2.2.2.2.2.2.1 facts described⟩

end RobotTeam
