import RobotTeam.Document.Toml.Moment
import RobotTeam.Document.Toml.Number
import RobotTeam.Document.Toml.Table
import RobotTeam.Document.Toml.Text

/-!
Reading TOML documents line by line. The numbers that limit the loops come from the length of the
text, which no loop reaches.
-/

namespace RobotTeam.Toml

def comment : Scan Unit := do
  if ← Scan.accepts '#' then Scan.skip isPlain

def lineBreak : Scan Bool := do
  if ← Scan.accepts '\n' then return true
  else Scan.acceptsWord ['\r', '\n']

def gaps : Nat → Scan Unit
  | 0 => failure
  | most + 1 => do
    Scan.skip isGap
    comment
    if ← lineBreak then gaps most

def endsScalar (c : Char) : Bool :=
  isGap c || c == '\n' || c == '\r' || c == ',' || c == ']' || c == '\x7d' || c == '#'

def simpleValue : Scan Datum := do
  let first ← Scan.peek?
  if first.any isQuote then return .text (← text)
  if first.any Decimal.isDigit then
    if let some moment ← optional readMoment then return moment.toDatum
  match scalar? (← Scan.run (!endsScalar ·)) with
  | some d => return d
  | none => failure

def items (item : Scan Datum) : Nat → List Datum → Scan (List Datum)
  | 0, _ => failure
  | most + 1, seen => do
    gaps (most + 1)
    if ← Scan.accepts ']' then return seen.reverse
    let d ← item
    gaps (most + 1)
    if ← Scan.accepts ',' then items item most (d :: seen)
    else do
      Scan.expect ']'
      return (d :: seen).reverse

def inlineFields (item : Scan Datum) : Nat → Children → Scan Children
  | 0, _ => failure
  | most + 1, seen => do
    let name ← key
    Scan.expect '='
    Scan.skip isGap
    let d ← item
    Scan.skip isGap
    match addValue name d .header seen with
    | none => failure
    | some seen =>
      if ← Scan.accepts ',' then inlineFields item most seen
      else do
        Scan.expect '\x7d'
        return seen

/-- A value. The second number limits the depth of lists and tables. -/
def value (most : Nat) : Nat → Scan Datum
  | 0 => simpleValue
  | depth + 1 => do
    if ← Scan.accepts '[' then return .list (← items (value most depth) most [])
    if ← Scan.accepts '\x7b' then
      Scan.skip isGap
      if ← Scan.accepts '\x7d' then return .record []
      return .record (childFields (← inlineFields (value most depth) most []))
    simpleValue

def deepest : Nat := 79

structure Progress where
  root : Children := []
  current : List String := []

def header (p : Progress) : Scan Progress := do
  Scan.expect '['
  let listed ← Scan.accepts '['
  let path ← key
  Scan.expect ']'
  if listed then Scan.expect ']'
  match openTable listed path p.root with
  | some root => return ⟨root, path⟩
  | none => failure

def keyValue (most : Nat) (p : Progress) : Scan Progress := do
  let name ← key
  Scan.expect '='
  Scan.skip isGap
  let d ← value most deepest
  match change .implied (addValue name d) p.current .header p.root with
  | some root => return { p with root := root }
  | none => failure

def statement (most : Nat) (p : Progress) : Scan Progress := do
  match ← Scan.peek? with
  | some '[' => header p
  | some c => if c == '#' || c == '\n' || c == '\r' then return p else keyValue most p
  | none => return p

def lines : Nat → Progress → Scan Progress
  | 0, _ => failure
  | most + 1, p => do
    Scan.skip isGap
    let p ← statement (most + 1) p
    Scan.skip isGap
    comment
    if ← Scan.atEnd then return p
    else if ← lineBreak then lines most p
    else failure

def dropByteOrderMark : List Char → List Char
  | '\ufeff' :: rest => rest
  | s => s

def read? (s : String) : Option Datum :=
  let chars := dropByteOrderMark s.toList
  (Scan.whole? (lines (chars.length + 1) {}) chars).map fun p => .record (childFields p.root)

end RobotTeam.Toml
