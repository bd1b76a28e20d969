import RobotTeam.Count
import RobotTeam.Decimal.Read
import RobotTeam.Document.Toml.Text
import RobotTeam.Document.Datum
import RobotTeam.Text.Characters

/-!
Configuration by environment variables. After its prefix, the name of a variable is a path of fields
in small letters; its value has the type it reads as, and is a text if it reads as nothing else.
-/

namespace RobotTeam.Environment

def marker : List Char := ['o', 'r', 'g', 'm', 'o', 'd', 'e', 'l', '_']

def steps (step : List Char) : List Char → List String
  | [] => [String.ofList step.reverse]
  | '_' :: '_' :: rest => String.ofList step.reverse :: steps [] rest
  | '.' :: rest => String.ofList step.reverse :: steps [] rest
  | c :: rest => steps (c :: step) rest

/-- The path of a variable with the prefix. A path with an empty step leads nowhere. -/
def path? (name : String) : Option (List String) :=
  let small := Text.trim (name.toList.map Char.toLower)
  if marker.isPrefixOf small then
    let path := steps [] (Text.trim (small.drop marker.length))
    if path.contains "" then none else some path
  else none

def isBlank (c : Char) : Bool := c == ' ' || c == '\t' || c == '\n' || c == '\x0c' || c == '\r'

def isSeparator (c : Char) : Bool :=
  c == ',' || c == '\x7b' || c == '\x7d' || c == '[' || c == ']'

/-- A number if it reads as one, or else the text. Only a number with a point is a double. -/
def plainValue (s : List Char) : Datum :=
  let s := Text.trim s
  match if s.contains '.' then Decimal.readDouble? s else none with
  | some x => .double x
  | none =>
    match Decimal.readNat Width.mostUnsigned s with
    | .ok n => .integer n
    | .error _ =>
      match s with
      | '-' :: digits =>
        match digits, Decimal.readDigits Width.least.natAbs 0 digits with
        | _ :: _, .ok n => .integer (-n)
        | _, _ => .text (String.ofList s)
      | _ => .text (String.ofList s)

def fitting : Nat → List Char → List Char
  | _, [] => []
  | size, c :: rest => if c.utf8Size ≤ size then c :: fitting (size - c.utf8Size) rest else []

def isUnescaped (c : Char) : Bool := Toml.isPlain c && c != '"' && c != '\\'

/-- A text in double quotes. What stands before its first escape is cut to as many bytes as it has
characters, which shortens nothing but texts beyond ASCII. -/
def quotedText : Scan String := do
  Scan.expect '"'
  let plain ← Scan.run isUnescaped
  let kept := if (← Scan.peek?) = some '\\' then fitting plain.length plain else plain
  Toml.continueWith (Toml.readBasic kept.reverse)

def fieldName : Scan String := do
  if (← Scan.peek?) = some '"' then quotedText
  else
    let name ← Scan.run Toml.isBareKey
    if name.isEmpty then failure
    return String.ofList name

mutual

def value : Nat → Scan Datum
  | 0 => failure
  | depth + 1 => do
    Scan.skip isBlank
    let d ← body depth
    Scan.skip isBlank
    return d

def body : Nat → Scan Datum
  | 0 => failure
  | depth + 1 => do
    if ← Scan.acceptsWord ['t', 'r', 'u', 'e'] then return .bool true
    if ← Scan.acceptsWord ['f', 'a', 'l', 's', 'e'] then return .bool false
    if ← Scan.accepts '[' then return .list (← items depth [])
    if ← Scan.accepts '\x7b' then return .record (Fields.keepLast (← fields depth []))
    if (← Scan.peek?) = some '"' then return .text (← quotedText)
    if ← Scan.accepts '\x27' then
      let c ← Scan.next
      Scan.expect '\x27'
      return .text (String.singleton c)
    return plainValue (← Scan.run (!isSeparator ·))

def items : Nat → List Datum → Scan (List Datum)
  | 0, _ => failure
  | depth + 1, seen => do
    if ← Scan.accepts ']' then return seen.reverse
    let item ← value depth
    if ← Scan.accepts ',' then items depth (item :: seen)
    else do
      Scan.expect ']'
      return (item :: seen).reverse

def fields : Nat → Fields → Scan Fields
  | 0, _ => failure
  | depth + 1, seen => do
    if ← Scan.accepts '\x7d' then return seen.reverse
    Scan.skip isBlank
    let name ← fieldName
    Scan.skip isBlank
    Scan.expect '='
    let item ← value depth
    if ← Scan.accepts ',' then fields depth ((name, item) :: seen)
    else do
      Scan.expect '\x7d'
      return ((name, item) :: seen).reverse

end

def read (s : String) : Datum :=
  (Scan.whole? (value (2 * s.length + 2)) s.toList).getD (.text s)

def nest (path : List String) (d : Datum) : Datum :=
  path.foldr (fun step inner => .record [(step, inner)]) d

end RobotTeam.Environment
