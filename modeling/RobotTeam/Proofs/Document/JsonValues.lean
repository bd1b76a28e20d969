import RobotTeam.Document.Codec
import RobotTeam.Document.Json.Reader
import RobotTeam.Document.Json.Writer
import Mathlib.Data.Int.Notation
import Mathlib.Data.List.Basic
import Mathlib.Data.Nat.Notation

/-! JSON values that are written and read back. JSON has no infinite numbers and none that are not a
number: null is written for them. A list, a map or a record comes back if its parts do. -/

namespace RobotTeam

namespace Json

mutual

def ofDatum : Datum → Datum
  | .null => .null
  | .bool b => .bool b
  | .integer n => .integer n
  | .double x => if isFinite x then .double x else .null
  | .text s => .text s
  | .list items => .list (ofItems items)
  | .record fields => .record (ofFields fields)

def ofItems : List Datum → List Datum
  | [] => []
  | d :: rest => ofDatum d :: ofItems rest

def ofFields : List (String × Datum) → List (String × Datum)
  | [] => []
  | (name, d) :: rest => (name, ofDatum d) :: ofFields rest

end

theorem document?_eq_none {x : Float} (h : isFinite x = false) : Decimal.document? x = none := by
  unfold isFinite at h
  unfold Decimal.document?
  cases parts : Decimal.parts x with
  | nan => rfl
  | infinite negative => rfl
  | finite negative significand exponent =>
    rw [parts] at h
    cases h

mutual

/-- The text of a datum is the text of its JSON value. -/
theorem compact_ofDatum : (d : Datum) → compact (ofDatum d) = compact d
  | .null => by rw [ofDatum]
  | .bool b => by rw [ofDatum]
  | .integer n => by rw [ofDatum]
  | .double x => by
    rw [ofDatum]
    split
    · rfl
    · next infinite =>
      rw [compact, compact, document?_eq_none (Bool.not_eq_true _ ▸ infinite), Option.getD_none]
  | .text s => by rw [ofDatum]
  | .list items => by rw [ofDatum, compact, compact, compactItems_ofItems items]
  | .record fields => by rw [ofDatum, compact, compact, compactFields_ofFields fields]

theorem compactItems_ofItems : (items : List Datum) → compactItems (ofItems items) = compactItems items
  | [] => by rw [ofItems]
  | d :: rest => by
    rw [ofItems, compactItems, compactItems, compact_ofDatum d, compactItems_ofItems rest]

theorem compactFields_ofFields :
    (fields : List (String × Datum)) → compactFields (ofFields fields) = compactFields fields
  | [] => by rw [ofFields]
  | (name, d) :: rest => by
    rw [ofFields, compactFields, compactFields, compact_ofDatum d, compactFields_ofFields rest]

end

theorem ofDatum_list (items : List Datum) : ofDatum (.list items) = .list (items.map ofDatum) := by
  rw [ofDatum]
  congr
  induction items with
  | nil => rw [ofItems, List.map_nil]
  | cons d rest ih => rw [ofItems, ih, List.map_cons]

theorem ofDatum_record (fields : Fields) :
    ofDatum (.record fields) = .record (fields.map fun f => (f.1, ofDatum f.2)) := by
  rw [ofDatum]
  congr
  induction fields with
  | nil => rw [ofFields, List.map_nil]
  | cons f rest ih => rw [ofFields, ih, List.map_cons]

theorem ofDatum_null : ofDatum .null = .null := by rw [ofDatum]

theorem ofDatum_integer (n : ℤ) : ofDatum (.integer n) = .integer n := by rw [ofDatum]

theorem ofDatum_text (s : String) : ofDatum (.text s) = .text s := by rw [ofDatum]

theorem ofDatum_double {x : Float} (finite : isFinite x = true) : ofDatum (.double x) = .double x := by
  rw [ofDatum, if_pos finite]

end Json

theorem ExtTreeMap.ofList_toList {α β : Type} [DecidableEq α] [Ord α] [Std.TransOrd α]
    [Std.LawfulEqOrd α] (map : Std.ExtTreeMap α β) : Std.ExtTreeMap.ofList map.toList = map := by
  apply Std.ExtTreeMap.ext_getElem?
  intro key
  cases stored : map[key]? with
  | some value =>
    have entry : (key, value) ∈ map.toList :=
      Std.ExtTreeMap.mem_toList_iff_getElem?_eq_some.mpr stored
    exact Std.ExtTreeMap.getElem?_ofList_of_mem Std.ReflCmp.compare_self
      Std.ExtTreeMap.distinct_keys_toList entry
  | none =>
    have unknown : key ∉ map := by
      rw [Std.ExtTreeMap.mem_iff_isSome_getElem?, stored]
      exact Bool.false_ne_true
    apply Std.ExtTreeMap.getElem?_eq_none
    rw [Std.ExtTreeMap.mem_ofList, Std.ExtTreeMap.map_fst_toList_eq_keys]
    simpa using unknown

namespace Codec

theorem mapM_eq_some {α β : Type} {read? : α → Option β} {items : List α} {values : List β} :
    items.mapM read? = some values ↔ items.map read? = values.map some := by
  induction items generalizing values with
  | nil => cases values <;> simp
  | cons item rest ih =>
    rw [List.mapM_cons, List.map_cons]
    cases first : read? item with
    | none => cases values <;> simp
    | some value =>
      cases values with
      | nil => simp [Option.bind_eq_some_iff]
      | cons v vs => simp [Option.bind_eq_some_iff, ih, and_comm]

theorem mapM_map_of_forall {α β : Type} {read? : β → Option α} {write : α → β} {items : List α}
    (h : ∀ a ∈ items, read? (write a) = some a) : (items.map write).mapM read? = some items := by
  rw [mapM_eq_some, List.map_map]
  exact List.map_congr_left h

theorem bind_eq_some {α β : Type} {o : Option α} {f : α → Option β} {a : α} {b : β}
    (first : o = some a) (second : f a = some b) : (o >>= f) = some b := by
  rw [first]
  exact second

section Fields

variable {α : Type} (missing : α) (read? : Datum → Option α) {name other : String} (d : Datum)
  (rest : Fields)

theorem lookup_cons_of_ne (h : name ≠ other) :
    ((other, d) :: rest : Fields).lookup name = (rest : Fields).lookup name := by
  rw [List.lookup_cons, beq_false_of_ne h]

@[simp] theorem field?_cons_self : field? read? ((name, d) :: rest) name = read? d := by
  rw [field?, List.lookup_cons_self, Option.bind_some]

@[simp] theorem field?_cons_of_ne (h : name ≠ other) :
    field? read? ((other, d) :: rest) name = field? read? rest name := by
  rw [field?, lookup_cons_of_ne d rest h, field?]

@[simp] theorem fieldOr?_cons_self : fieldOr? missing read? ((name, d) :: rest) name = read? d := by
  rw [fieldOr?, List.lookup_cons_self]

@[simp] theorem fieldOr?_cons_of_ne (h : name ≠ other) :
    fieldOr? missing read? ((other, d) :: rest) name = fieldOr? missing read? rest name := by
  rw [fieldOr?, lookup_cons_of_ne d rest h, fieldOr?]

end Fields

section Numbers

theorem integerIn?_written {least most n : ℤ} (fits : least ≤ n ∧ n ≤ most) :
    integerIn? least most (Json.ofDatum (.integer n)) = some n := by
  rw [Json.ofDatum_integer, integerIn?, if_pos fits]

theorem natUpTo?_written {most n : ℕ} (fits : n ≤ most) :
    natUpTo? most (Json.ofDatum (writeNat n)) = some n := by
  rw [writeNat, natUpTo?, integerIn?_written ⟨by omega, by omega⟩, Option.map_some, Int.toNat_natCast]

theorem count?_written {n : ℕ} (fits : n ≤ Count.limit) :
    count? (Json.ofDatum (writeNat n)) = some n := natUpTo?_written fits

end Numbers

def RoundTrips {α : Type} [Codec α] (a : α) : Prop := read? .json (Json.ofDatum (write a)) = some a

section Parts

variable {α : Type} [Codec α]

theorem roundTrips_text (s : String) : RoundTrips s := by
  have written : Json.ofDatum (write s) = .text s := Json.ofDatum_text s
  rw [RoundTrips, written]
  rfl

theorem roundTrips_double {x : Float} (finite : Json.isFinite x = true) : RoundTrips x := by
  have written : Json.ofDatum (write x) = .double x := Json.ofDatum_double finite
  rw [RoundTrips, written]
  rfl

theorem roundTrips_none : RoundTrips (none : Option α) := by
  have written : Json.ofDatum (write (none : Option α)) = .null := Json.ofDatum_null
  rw [RoundTrips, written]
  rfl

/-- A value that is there comes back unless it is written as null. -/
theorem roundTrips_some {a : α} (h : RoundTrips a) (there : Json.ofDatum (write a) ≠ .null) :
    RoundTrips (some a) := by
  have written : write (some a) = write a := rfl
  have read : ∀ d ≠ Datum.null, (read? .json d : Option (Option α)) = (read? .json d).map some := by
    intro d hd
    cases d with
    | null => exact absurd rfl hd
    | _ => rfl
  rw [RoundTrips, written, read _ there, h]
  rfl

/-- A record comes back if it does so from its fields, each of which is written on its own. -/
theorem roundTrips_record {a : α} {fields : Fields} (record : write a = .record fields)
    (read : read? .json (.record (fields.map fun f => (f.1, Json.ofDatum f.2))) = some a) :
    RoundTrips a := by
  rwa [RoundTrips, record, Json.ofDatum_record]

theorem roundTrips_list {list : List α} (h : ∀ a ∈ list, RoundTrips a) : RoundTrips list := by
  have written : Json.ofDatum (write list) = .list (list.map fun a => Json.ofDatum (write a)) := by
    refine (Json.ofDatum_list _).trans ?_
    rw [List.map_map]
    rfl
  rw [RoundTrips, written]
  exact mapM_map_of_forall h

theorem roundTrips_map {map : Std.ExtTreeMap String α} (h : ∀ e ∈ map.toList, RoundTrips e.2) :
    RoundTrips map := by
  have written : Json.ofDatum (write map) =
      .record (map.toList.map fun e => (e.1, Json.ofDatum (write e.2))) := by
    refine (Json.ofDatum_record _).trans ?_
    rw [List.map_map]
    rfl
  have entries : (map.toList.map fun e => (e.1, Json.ofDatum (write e.2))).mapM
      (fun f => (read? .json f.2).map (f.1, ·)) = some map.toList := by
    refine mapM_map_of_forall fun e he => ?_
    have value : read? .json (Json.ofDatum (write e.2)) = some e.2 := h e he
    rw [value]
    rfl
  rw [RoundTrips, written]
  refine (congrArg (Option.map (Std.ExtTreeMap.ofList ·)) entries).trans ?_
  rw [Option.map_some, ExtTreeMap.ofList_toList]

end Parts

end Codec

end RobotTeam
