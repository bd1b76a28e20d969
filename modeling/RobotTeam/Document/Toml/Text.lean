import RobotTeam.Text.Characters
import RobotTeam.Text.Scan

/-!
Texts and keys of TOML. Texts stand in double quotes, with escapes, or in single quotes, without any;
tripled quotes enclose texts of several lines.
-/

namespace RobotTeam.Toml

def isGap (c : Char) : Bool := c == ' ' || c == '\t'

def isPlain (c : Char) : Bool := c == '\t' || (' ' ≤ c && c != '\x7f')

def escapes : List (Char × Char) :=
  [('b', '\x08'), ('t', '\t'), ('n', '\n'), ('f', '\x0c'), ('r', '\r'), ('"', '"'), ('\\', '\\')]

def readBasic (seen : List Char) : List Char → Option (String × List Char)
  | [] => none
  | '"' :: rest => some (String.ofList seen.reverse, rest)
  | '\\' :: 'u' :: a :: b :: c :: d :: rest =>
    match (Text.numeral? 16 [a, b, c, d]).bind Text.character? with
    | some x => readBasic (x :: seen) rest
    | none => none
  | '\\' :: 'U' :: a :: b :: c :: d :: e :: f :: g :: h :: rest =>
    match (Text.numeral? 16 [a, b, c, d, e, f, g, h]).bind Text.character? with
    | some x => readBasic (x :: seen) rest
    | none => none
  | '\\' :: e :: rest =>
    match escapes.lookup e with
    | some x => readBasic (x :: seen) rest
    | none => none
  | c :: rest => if isPlain c then readBasic (c :: seen) rest else none

def readLiteral (seen : List Char) : List Char → Option (String × List Char)
  | [] => none
  | c :: rest =>
    if c = '\x27' then some (String.ofList seen.reverse, rest)
    else if isPlain c then readLiteral (c :: seen) rest
    else none

def startsLineBreak : List Char → Bool
  | '\n' :: _ => true
  | '\r' :: '\n' :: _ => true
  | _ => false

/-- The line break right after tripled quotes does not belong to the text. -/
def dropLineBreak : List Char → List Char
  | '\n' :: rest => rest
  | '\r' :: '\n' :: rest => rest
  | s => s

/-- Closes a text of several lines; up to two quotes before the closing ones belong to it. -/
def close (quote : Char) (seen rest : List Char) : String × List Char :=
  let more := (rest.takeWhile (· == quote)).length
  let own := Nat.min more 2
  (String.ofList (List.replicate own quote ++ seen).reverse, rest.drop own)

/-- Reads on inside tripled double quotes. After a backslash at the end of a line, all blanks and
line breaks that follow are left out. -/
def readLongBasic (trimming : Bool) (seen : List Char) : List Char → Option (String × List Char)
  | [] => none
  | '"' :: '"' :: '"' :: rest => some (close '"' seen rest)
  | '\\' :: 'u' :: a :: b :: c :: d :: rest =>
    match (Text.numeral? 16 [a, b, c, d]).bind Text.character? with
    | some x => readLongBasic false (x :: seen) rest
    | none => none
  | '\\' :: 'U' :: a :: b :: c :: d :: e :: f :: g :: h :: rest =>
    match (Text.numeral? 16 [a, b, c, d, e, f, g, h]).bind Text.character? with
    | some x => readLongBasic false (x :: seen) rest
    | none => none
  | '\\' :: e :: rest =>
    match escapes.lookup e with
    | some x => readLongBasic false (x :: seen) rest
    | none =>
      if startsLineBreak ((e :: rest).dropWhile isGap) then readLongBasic true seen (e :: rest)
      else none
  | '\r' :: '\n' :: rest => readLongBasic trimming (if trimming then seen else '\n' :: seen) rest
  | '\n' :: rest => readLongBasic trimming (if trimming then seen else '\n' :: seen) rest
  | c :: rest =>
    if trimming && isGap c then readLongBasic true seen rest
    else if isPlain c then readLongBasic false (c :: seen) rest
    else none

def readLongLiteral (seen : List Char) : List Char → Option (String × List Char)
  | [] => none
  | '\x27' :: '\x27' :: '\x27' :: rest => some (close '\x27' seen rest)
  | '\r' :: '\n' :: rest => readLongLiteral ('\n' :: seen) rest
  | c :: rest =>
    if c = '\n' || isPlain c then readLongLiteral (c :: seen) rest else none

def continueWith (read : List Char → Option (String × List Char)) : Scan String := do
  match read (← get) with
  | some (s, rest) => set rest; return s
  | none => failure

def shortText : Scan String := do
  if ← Scan.accepts '"' then continueWith (readBasic [])
  else do
    Scan.expect '\x27'
    continueWith (readLiteral [])

def text : Scan String := do
  if ← Scan.acceptsWord ['"', '"', '"'] then continueWith (readLongBasic false [] ∘ dropLineBreak)
  else if ← Scan.acceptsWord ['\x27', '\x27', '\x27'] then
    continueWith (readLongLiteral [] ∘ dropLineBreak)
  else shortText

def isBareKey (c : Char) : Bool :=
  ('a' ≤ c && c ≤ 'z') || ('A' ≤ c && c ≤ 'Z') || ('0' ≤ c && c ≤ '9') || c == '_' || c == '-'

def isQuote (c : Char) : Bool := c == '"' || c == '\x27'

def simpleKey : Scan String := do
  if (← Scan.peek?).any isQuote then shortText
  else do
    let name ← Scan.run isBareKey
    if name.isEmpty then failure
    return String.ofList name

def mostParts : Nat := 79

def keyParts : Nat → List String → Scan (List String)
  | 0, _ => failure
  | most + 1, seen => do
    Scan.skip isGap
    let part ← simpleKey
    Scan.skip isGap
    if ← Scan.accepts '.' then keyParts most (part :: seen)
    else return (part :: seen).reverse

def key : Scan (List String) := keyParts mostParts []

end RobotTeam.Toml
