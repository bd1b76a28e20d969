import RobotTeam.Decimal.Read
import RobotTeam.Document.Datum
import RobotTeam.Text.Characters
import RobotTeam.Text.Scan

/-!
Reading JSON. Numerals without point and exponent are integers as long as they fit 64 bits; of fields
with the same name the last one counts.
-/

namespace RobotTeam.Json

def isBlank (c : Char) : Bool := c == ' ' || c == '\t' || c == '\n' || c == '\r'

def blanks : Scan Unit := Scan.skip isBlank

def escapes : List (Char × Char) :=
  [('"', '"'), ('\\', '\\'), ('/', '/'), ('b', '\x08'), ('f', '\x0c'), ('n', '\n'), ('r', '\r'),
   ('t', '\t')]

def surrogatePair? (high low : Nat) : Option Char :=
  if 0xDC00 ≤ low ∧ low < 0xE000 then
    Text.character? (0x10000 + (high - 0xD800) * 0x400 + (low - 0xDC00))
  else none

/-- Reads on after an opening quote. `high` is the first half of a surrogate pair whose second half
has to follow. -/
def readText (high : Option Nat) (seen : List Char) : List Char → Option (String × List Char)
  | [] => none
  | '\\' :: 'u' :: a :: b :: c :: d :: rest =>
    match Text.numeral? 16 [a, b, c, d], high with
    | none, _ => none
    | some low, some high =>
      match surrogatePair? high low with
      | some x => readText none (x :: seen) rest
      | none => none
    | some n, none =>
      if 0xD800 ≤ n ∧ n < 0xDC00 then readText (some n) seen rest
      else
        match Text.character? n with
        | some x => readText none (x :: seen) rest
        | none => none
  | '\\' :: e :: rest =>
    match escapes.lookup e, high with
    | some x, none => readText none (x :: seen) rest
    | _, _ => none
  | c :: rest =>
    if high.isSome || c < ' ' then none
    else if c = '"' then some (String.ofList seen.reverse, rest)
    else readText none (c :: seen) rest

def text : Scan String := do
  Scan.expect '"'
  match readText none [] (← get) with
  | some (s, rest) => set rest; return s
  | none => failure

def fraction : Scan (List Char) := do
  if ← Scan.accepts '.' then
    let digits ← Scan.run Decimal.isDigit
    if digits.isEmpty then failure
    return digits
  else return []

def exponent : Scan (Option Int) := do
  if (← Scan.accepts 'e') || (← Scan.accepts 'E') then
    let negative ← Scan.accepts '-'
    if !negative then let _ ← Scan.accepts '+'
    let digits ← Scan.run Decimal.isDigit
    if digits.isEmpty then failure
    let n : Int := Decimal.digitsValue digits
    return some (if negative then -n else n)
  else return none

def isFinite (x : Float) : Bool :=
  match Decimal.parts x with
  | .finite _ _ _ => true
  | _ => false

def isInteger (negative : Bool) (n : Nat) : Bool :=
  if negative then n != 0 && Width.fits (-n) else n ≤ Width.mostUnsigned

def number : Scan Datum := do
  let negative ← Scan.accepts '-'
  let whole ← Scan.run Decimal.isDigit
  if whole.isEmpty || (whole.head? == some '0' && whole.length ≠ 1) then failure
  let places ← fraction
  let power ← exponent
  let n := Decimal.digitsValue whole
  let signed : Int := if negative then -(n : Int) else n
  if places.isEmpty && power.isNone && isInteger negative n then
    return .integer signed
  let digits := Decimal.digitsValue (whole ++ places)
  let x := Decimal.toDouble negative digits (power.getD 0 - places.length)
  if isFinite x then return .double x else failure

mutual

def value : Nat → Scan Datum
  | 0 => failure
  | depth + 1 => do
    blanks
    match ← Scan.peek? with
    | some '"' => return .text (← text)
    | some '[' =>
      let _ ← Scan.next
      blanks
      if ← Scan.accepts ']' then return .list []
      return .list (← items depth [])
    | some '\x7b' =>
      let _ ← Scan.next
      blanks
      if ← Scan.accepts '\x7d' then return .record []
      return .record (Fields.keepLast (← fields depth []))
    | _ =>
      if ← Scan.acceptsWord ['n', 'u', 'l', 'l'] then return .null
      if ← Scan.acceptsWord ['t', 'r', 'u', 'e'] then return .bool true
      if ← Scan.acceptsWord ['f', 'a', 'l', 's', 'e'] then return .bool false
      number

def items : Nat → List Datum → Scan (List Datum)
  | 0, _ => failure
  | depth + 1, seen => do
    let item ← value depth
    blanks
    if ← Scan.accepts ',' then items depth (item :: seen)
    else do
      Scan.expect ']'
      return (item :: seen).reverse

def fields : Nat → Fields → Scan Fields
  | 0, _ => failure
  | depth + 1, seen => do
    blanks
    let name ← text
    blanks
    Scan.expect ':'
    let item ← value depth
    blanks
    if ← Scan.accepts ',' then fields depth ((name, item) :: seen)
    else do
      Scan.expect '\x7d'
      return ((name, item) :: seen).reverse

end

/-- Reads a text that is one JSON value. No value is nested deeper than its text is long. -/
def read? (s : String) : Option Datum :=
  let scan : Scan Datum := do
    let d ← value (s.length + 1)
    blanks
    return d
  Scan.whole? scan s.toList

end RobotTeam.Json
