import RobotTeam.Decimal.Layout
import RobotTeam.Document.Datum
import RobotTeam.Text.Quoted

/-!
Writing JSON, either compactly on one line or with one item a line and two blanks a level. What is no
finite number is written as null.
-/

namespace RobotTeam.Json

def escape (c : Char) : List Char :=
  if c = '"' then ['\\', '"']
  else if c = '\\' then ['\\', '\\']
  else if c = '\n' then ['\\', 'n']
  else if c = '\r' then ['\\', 'r']
  else if c = '\t' then ['\\', 't']
  else if c = '\x08' then ['\\', 'b']
  else if c = '\x0c' then ['\\', 'f']
  else if c < ' ' then
    let digits := Text.hexDigits c.toNat
    ['\\', 'u', '0', '0'] ++ (if digits.length < 2 then '0' :: digits else digits)
  else [c]

def quoted (s : String) : String :=
  String.ofList (['"'] ++ s.toList.flatMap escape ++ ['"'])

mutual

def compact : Datum → String
  | .null => "null"
  | .bool b => if b then "true" else "false"
  | .integer n => toString n
  | .double x => (Decimal.document? x).getD "null"
  | .text s => quoted s
  | .list items => "[" ++ ",".intercalate (compactItems items) ++ "]"
  | .record fields => "\x7b" ++ ",".intercalate (compactFields fields) ++ "\x7d"

def compactItems : List Datum → List String
  | [] => []
  | d :: rest => compact d :: compactItems rest

def compactFields : List (String × Datum) → List String
  | [] => []
  | (name, d) :: rest => (quoted name ++ ":" ++ compact d) :: compactFields rest

end

def block (opening closing margin : String) (lines : List String) : String :=
  if lines.isEmpty then opening ++ closing
  else
    opening ++ "\n" ++ ",\n".intercalate (lines.map fun line => margin ++ "  " ++ line)
      ++ "\n" ++ margin ++ closing

mutual

def prettyFrom (margin : String) : Datum → String
  | .null => "null"
  | .bool b => if b then "true" else "false"
  | .integer n => toString n
  | .double x => (Decimal.document? x).getD "null"
  | .text s => quoted s
  | .list items => block "[" "]" margin (prettyItems (margin ++ "  ") items)
  | .record fields => block "\x7b" "\x7d" margin (prettyFields (margin ++ "  ") fields)

def prettyItems (margin : String) : List Datum → List String
  | [] => []
  | d :: rest => prettyFrom margin d :: prettyItems margin rest

def prettyFields (margin : String) : List (String × Datum) → List String
  | [] => []
  | (name, d) :: rest => (quoted name ++ ": " ++ prettyFrom margin d) :: prettyFields margin rest

end

def pretty (d : Datum) : String := prettyFrom "" d

end RobotTeam.Json
