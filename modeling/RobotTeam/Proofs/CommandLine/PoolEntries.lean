import RobotTeam.CommandLine.Names
import Mathlib.Data.List.Basic
import Mathlib.Data.Nat.Notation

/-! Entries of a pool as they are typed. A name is followed by its count in decimal digits, which hold
neither an equals sign nor a slash, so that the last equals sign always parts the two, whatever the name
holds. A name that was read once is read again as itself. -/

namespace RobotTeam

namespace Text

structure Trimmed (s : List Char) : Prop where
  first : ∀ c ∈ s.head?, isBlank c = false
  last : ∀ c ∈ s.getLast?, isBlank c = false

variable {s : List Char}

theorem dropWhile_of_head (h : ∀ c ∈ s.head?, isBlank c = false) : s.dropWhile isBlank = s := by
  cases s with
  | nil => rfl
  | cons c rest =>
    have first := h c rfl
    exact List.dropWhile_cons_of_neg (by simp [first])

theorem head_dropWhile (s : List Char) : ∀ c ∈ (s.dropWhile isBlank).head?, isBlank c = false := by
  intro c hc
  have first := List.head?_dropWhile_not isBlank s
  rwa [Option.mem_def.mp hc] at first

theorem Trimmed.trim_eq (h : Trimmed s) : trim s = s := by
  have last : ∀ c ∈ s.reverse.head?, isBlank c = false := by
    rw [List.head?_reverse]
    exact h.last
  rw [trim, dropWhile_of_head h.first, dropWhile_of_head last, List.reverse_reverse]

theorem trimmed_trim (s : List Char) : Trimmed (trim s) where
  first := by
    -- what trimming leaves is a beginning of the text without its leading blanks
    obtain ⟨blanks, split⟩ := List.reverse_prefix.mpr
      (List.dropWhile_suffix (l := (s.dropWhile isBlank).reverse) isBlank)
    rw [List.reverse_reverse] at split
    have front : trim s ++ blanks = s.dropWhile isBlank := split
    intro c hc
    refine head_dropWhile s c ?_
    rw [← front, List.head?_append, Option.mem_def.mp hc, Option.some_or, Option.mem_def]
  last := by
    intro c hc
    rw [trim, List.getLast?_reverse] at hc
    exact head_dropWhile _ c hc

theorem trimmed_of_forall (h : ∀ c ∈ s, isBlank c = false) : Trimmed s where
  first c hc := h c (List.mem_of_head? hc)
  last c hc := h c (List.mem_of_getLast? hc)

theorem isBlank_of_isDigit {c : Char} (h : c.isDigit = true) : isBlank c = false := by
  rw [Char.isDigit, Bool.and_eq_true, decide_eq_true_eq, decide_eq_true_eq] at h
  have least : 48 ≤ c.toNat := h.1
  have most : c.toNat ≤ 57 := h.2
  simp only [isBlank, Bool.or_eq_false_iff, Bool.and_eq_false_iff, decide_eq_false_iff_not,
    beq_eq_false_iff_ne]
  omega

theorem Trimmed.append {before : List Char} (h : Trimmed s) (nonempty : s ≠ [])
    (starts : ∃ c ∈ before.head?, isBlank c = false) : Trimmed (before ++ s) where
  first := by
    obtain ⟨c, first, visible⟩ := starts
    intro d hd
    rw [List.head?_append, Option.mem_def.mp first, Option.mem_def, Option.some_or] at hd
    cases hd
    exact visible
  last := by
    intro c hc
    rw [List.getLast?_append_of_ne_nil _ nonempty] at hc
    exact h.last c hc

theorem cutLast?_of_not_mem {c : Char} (h : c ∉ s) : cutLast? c s = none := by
  induction s with
  | nil => rfl
  | cons d rest ih =>
    rw [List.mem_cons, not_or] at h
    rw [cutLast?, ih h.2, if_neg (Ne.symm h.1)]

theorem cutLast?_append {c : Char} {after : List Char} (h : c ∉ after) (before : List Char) :
    cutLast? c (before ++ c :: after) = some (before, after) := by
  induction before with
  | nil => rw [List.nil_append, cutLast?, cutLast?_of_not_mem h, if_pos rfl]
  | cons d rest ih => rw [List.cons_append, cutLast?, ih]

theorem occursIn_iff {part : List Char} : occursIn part s = true ↔ part <:+: s := by
  induction s with
  | nil => simp [occursIn, List.isEmpty_iff]
  | cons c rest ih =>
    rw [occursIn, Bool.or_eq_true, ih, List.isPrefixOf_iff_prefix, List.infix_cons_iff]

end Text

namespace Decimal

open Nat (ofDigitChars toDigits)

theorem le_ofDigitChars (digits : List Char) (n : ℕ) : n ≤ ofDigitChars 10 digits n := by
  induction digits generalizing n with
  | nil => exact Nat.le_refl n
  | cons c rest ih =>
    rw [Nat.ofDigitChars_cons]
    exact Nat.le_trans (by omega) (ih _)

theorem readDigits_of_digits {largest : ℕ} {digits : List Char}
    (digit : ∀ c ∈ digits, c.isDigit = true) (n : ℕ) (fits : ofDigitChars 10 digits n ≤ largest) :
    readDigits largest n digits = .ok (ofDigitChars 10 digits n) := by
  induction digits generalizing n with
  | nil => rfl
  | cons c rest ih =>
    rw [List.forall_mem_cons] at digit
    rw [Nat.ofDigitChars_cons] at fits ⊢
    have isDigit : isDigit c = true := digit.1
    have value : digitValue c = c.toNat - '0'.toNat := rfl
    have small := Nat.le_trans (le_ofDigitChars rest _) fits
    rw [readDigits, isDigit, value, if_neg (by simp), if_neg (Nat.not_lt.mpr small)]
    exact ih digit.2 _ fits

theorem isDigit_of_mem {n : ℕ} {c : Char} (h : c ∈ toDigits 10 n) : c.isDigit = true :=
  Nat.isDigit_of_mem_toDigits (by decide) (by decide) h

theorem readNat_toDigits {largest n : ℕ} (fits : n ≤ largest) :
    readNat largest (toDigits 10 n) = .ok n := by
  have value : ofDigitChars 10 (toDigits 10 n) 0 = n :=
    Nat.ofDigitChars_toDigits (by decide) (by decide)
  have read : readDigits largest 0 (toDigits 10 n) = .ok n := by
    rw [readDigits_of_digits (fun c => isDigit_of_mem) 0 (by rwa [value]), value]
  have noPlus : ∀ rest, toDigits 10 n ≠ '+' :: rest := by
    intro rest plus
    have digit := isDigit_of_mem (plus ▸ List.mem_cons_self : '+' ∈ toDigits 10 n)
    cases digit
  unfold readNat
  split
  · next none => exact absurd none Nat.toDigits_ne_nil
  · next plus => exact absurd plus (noPlus [])
  · next rest _ plus => exact absurd plus (noPlus rest)
  · exact read

end Decimal

namespace Vocabulary

theorem ofName?_eq (name : String) : ofName? name =
    if Text.trim name.toList = [] then none
    else some (Iri.complete space (String.ofList (Text.trim name.toList))) := by
  unfold ofName?
  cases Text.trim name.toList <;> rfl

theorem ofName?_of_trimmed {name : String} (trimmed : Text.Trimmed name.toList)
    (nonempty : name.toList ≠ []) : ofName? name = some (Iri.complete space name) := by
  rw [ofName?_eq, trimmed.trim_eq, if_neg nonempty, String.ofList_toList]

theorem isFull_append (name : String) : Iri.isFull (space ++ name) = true := by
  rw [Iri.isFull, String.toList_append, Text.occursIn_iff]
  exact (Text.occursIn_iff.mp (by decide)).trans (List.prefix_append _ _).isInfix

/-- A completed name is a full one, and completing it once more changes nothing. -/
theorem ofName?_idempotent {name : String} {i : Iri} (h : ofName? name = some i) :
    ofName? i.text = some i := by
  rw [ofName?_eq] at h
  split at h
  · cases h
  · next nonempty =>
    have trimmed := Text.trimmed_trim name.toList
    generalize Text.trim name.toList = s at h trimmed nonempty
    rw [Option.some.injEq, Iri.complete] at h
    subst h
    by_cases full : Iri.isFull (String.ofList s) = true
    · rw [if_pos full, ofName?_of_trimmed (by rwa [String.toList_ofList])
        (by rwa [String.toList_ofList]), Iri.complete, if_pos full]
    · have visible : ∃ c ∈ space.toList.head?, Text.isBlank c = false :=
        ⟨'h', by decide, by decide⟩
      have characters : (space ++ String.ofList s).toList = space.toList ++ s := by
        rw [String.toList_append, String.toList_ofList]
      rw [if_neg full, ofName?_of_trimmed (characters ▸ trimmed.append nonempty visible)
        (by simp [characters, nonempty]), Iri.complete, if_pos (isFull_append _)]

end Vocabulary

namespace CommandLine

theorem readName_ok_iff {name : String} {i : Iri} :
    readName name = .ok i ↔ Vocabulary.ofName? name = some i := by
  unfold readName
  cases Vocabulary.ofName? name <;> simp

theorem readCount_toDigits {n : ℕ} (fits : n ≤ Count.limit) :
    readCount (Nat.toDigits 10 n) = .ok n := by
  have visible : ∀ c ∈ Nat.toDigits 10 n, Text.isBlank c = false :=
    fun c hc => Text.isBlank_of_isDigit (Decimal.isDigit_of_mem hc)
  rw [readCount, (Text.trimmed_of_forall visible).trim_eq, Decimal.readNat_toDigits fits]

theorem not_mem_toDigits {c : Char} (other : c.isDigit = false) (n : ℕ) : c ∉ Nat.toDigits 10 n := by
  intro hc
  rw [Decimal.isDigit_of_mem hc] at other
  cases other

theorem splitEntry_counted (name : List Char) {n : ℕ} (fits : n ≤ Count.limit) :
    splitEntry (name ++ '=' :: Nat.toDigits 10 n) = .ok (name, n) := by
  have noSlash : (Nat.toDigits 10 n).contains '/' = false := by
    simpa using not_mem_toDigits (c := '/') rfl n
  rw [splitEntry, Text.cutLast?_append (not_mem_toDigits rfl n)]
  simp only [noSlash, readCount_toDigits fits, Except.map]
  rfl

theorem splitEntry_uncounted {s : List Char} (h : '=' ∉ s) : splitEntry s = .ok (s, 1) := by
  rw [splitEntry, Text.cutLast?_of_not_mem h]

theorem readEntry_of_split {s name : String} {n : ℕ}
    (split : splitEntry s.toList = .ok (name.toList, n)) :
    readEntry s = (readName name).map fun i => ⟨i, n⟩ := by
  simp only [readEntry, split, bind, Except.bind, String.ofList_toList]
  cases readName name <;> rfl

/-- A name with a count is read as the name and this count, a text without equals sign as a name with
one instance, and a name that was read as itself. -/
theorem readEntry_roundTrip :
    (∀ (name : String) (n : ℕ), n ≤ Count.limit →
      readEntry (name ++ "=" ++ toString n) = (readName name).map fun i => ⟨i, n⟩) ∧
    (∀ s : String, '=' ∉ s.toList → readEntry s = (readName s).map fun i => ⟨i, 1⟩) ∧
    ∀ (s : String) (i : Iri), readName s = .ok i → readName i.text = .ok i := by
  refine ⟨fun name n fits => ?_, fun s uncounted => ?_, fun s i read => ?_⟩
  · apply readEntry_of_split
    have characters : (name ++ "=" ++ toString n).toList =
        name.toList ++ '=' :: Nat.toDigits 10 n := by
      simp [String.toList_append, Nat.toList_repr]
    rw [characters]
    exact splitEntry_counted name.toList fits
  · exact readEntry_of_split (splitEntry_uncounted uncounted)
  · rw [readName_ok_iff] at read ⊢
    exact Vocabulary.ofName?_idempotent read

/-- A query part keeps its equals sign and its slash, and the largest count is read. -/
theorem readEntry_roundTrip_query :
    let name := "http://team/hooks?of=Arm/Crane"
    4294967295 ≤ Count.limit ∧
      readEntry (name ++ "=" ++ toString 4294967295) = .ok ⟨⟨name⟩, 4294967295⟩ ∧
      readName name = .ok ⟨name⟩ ∧ readName (Iri.mk name).text = .ok ⟨name⟩ := by
  intro name
  have largest : 4294967295 ≤ Count.limit := by decide
  have read : readName name = .ok ⟨name⟩ := by decide
  obtain ⟨counted, -, again⟩ := readEntry_roundTrip
  refine ⟨largest, ?_, read, again name ⟨name⟩ read⟩
  rw [counted name 4294967295 largest, read]
  rfl

end CommandLine

end RobotTeam
