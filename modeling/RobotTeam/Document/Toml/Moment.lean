import RobotTeam.Decimal.Read
import RobotTeam.Document.Datum
import RobotTeam.Text.Scan

/-!
Dates and times of TOML: a day, a time of day, or both, then perhaps with the offset of a time zone.
In a document's value they are records whose only field holds their text in its usual form.
-/

namespace RobotTeam.Toml

structure Day where
  year : Nat
  month : Nat
  day : Nat
  deriving DecidableEq, Repr

structure Time where
  hour : Nat
  minute : Nat
  second : Nat
  nanosecond : Nat
  deriving DecidableEq, Repr

inductive Zone where
  | zulu
  /-- Ahead of or behind universal time, by so many minutes. -/
  | offset (behind : Bool) (minutes : Nat)
  deriving DecidableEq, Repr

inductive Moment where
  | day (day : Day)
  | time (time : Time)
  | both (day : Day) (time : Time) (zone : Option Zone)
  deriving DecidableEq, Repr

def isLeapYear (year : Nat) : Bool := year % 4 == 0 && (year % 100 != 0 || year % 400 == 0)

def daysOfMonth (year month : Nat) : Nat :=
  if month = 2 then if isLeapYear year then 29 else 28
  else if month = 4 ∨ month = 6 ∨ month = 9 ∨ month = 11 then 30
  else 31

def padded (places n : Nat) : String :=
  let digits := toString n
  "".pushn '0' (places - digits.length) ++ digits

def fractionDigits (billionths : Nat) : List Char :=
  ((padded 9 billionths).toList.reverse.dropWhile (· == '0')).reverse

def Day.text (d : Day) : String := s!"{padded 4 d.year}-{padded 2 d.month}-{padded 2 d.day}"

def Time.text (t : Time) : String :=
  let whole := s!"{padded 2 t.hour}:{padded 2 t.minute}:{padded 2 t.second}"
  if t.nanosecond = 0 then whole else s!"{whole}.{String.ofList (fractionDigits t.nanosecond)}"

def Zone.text : Zone → String
  | .zulu => "Z"
  | .offset behind minutes =>
    (if behind && minutes != 0 then "-" else "+")
      ++ s!"{padded 2 (minutes / 60)}:{padded 2 (minutes % 60)}"

def Moment.text : Moment → String
  | .day d => d.text
  | .time t => t.text
  | .both d t none => s!"{d.text}T{t.text}"
  | .both d t (some zone) => s!"{d.text}T{t.text}{zone.text}"

def momentField : String := "$__toml_private_datetime"

def Moment.toDatum (m : Moment) : Datum := .record [(momentField, .text m.text)]

def fixedNumber (places least most : Nat) : Scan Nat := do
  let digits ← Scan.exactly places
  let n := Decimal.digitsValue digits
  if digits.all Decimal.isDigit && least ≤ n && n ≤ most then return n else failure

def readDay : Scan Day := do
  let year ← fixedNumber 4 0 9999
  Scan.expect '-'
  let month ← fixedNumber 2 1 12
  Scan.expect '-'
  let day ← fixedNumber 2 1 (daysOfMonth year month)
  return ⟨year, month, day⟩

/-- The digits after the point; those after the ninth do not count. -/
def readNanosecond : Scan Nat := do
  Scan.expect '.'
  let digits ← Scan.run Decimal.isDigit
  if digits.isEmpty then failure
  return Decimal.digitsValue ((digits ++ List.replicate 9 '0').take 9)

def readTime : Scan Time := do
  let hour ← fixedNumber 2 0 23
  Scan.expect ':'
  let minute ← fixedNumber 2 0 59
  Scan.expect ':'
  let second ← fixedNumber 2 0 60
  let nanosecond ← optional readNanosecond
  return ⟨hour, minute, second, nanosecond.getD 0⟩

def readZone : Scan Zone := do
  let sign ← Scan.next
  if sign = 'Z' ∨ sign = 'z' then return .zulu
  if sign ≠ '+' ∧ sign ≠ '-' then failure
  let hours ← fixedNumber 2 0 23
  Scan.expect ':'
  let minutes ← fixedNumber 2 0 59
  return .offset (sign = '-') (60 * hours + minutes)

def readTimeOfDay : Scan (Time × Option Zone) := do
  let mark ← Scan.next
  if mark ≠ 'T' ∧ mark ≠ 't' ∧ mark ≠ ' ' then failure
  let time ← readTime
  return (time, ← optional readZone)

def readMoment : Scan Moment := do
  match ← optional readDay with
  | none => return .time (← readTime)
  | some day =>
    match ← optional readTimeOfDay with
    | none => return .day day
    | some (time, zone) => return .both day time zone

end RobotTeam.Toml
