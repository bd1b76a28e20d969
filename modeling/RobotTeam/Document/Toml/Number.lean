import RobotTeam.Decimal.Read
import RobotTeam.Document.Datum
import RobotTeam.Text.Characters

/-!
Numbers and truth values of TOML. Underscores may stand between digits; whole numbers have no leading
zeros and fit 64 bits with a sign.
-/

namespace RobotTeam.Toml

def ungroup? : List Char → Option (List Char)
  | [] => none
  | [c] => if c = '_' then none else some [c]
  | c :: '_' :: rest => if c = '_' then none else (ungroup? rest).map (c :: ·)
  | c :: rest => if c = '_' then none else (ungroup? rest).map (c :: ·)

def whole? (s : List Char) : Option (List Char) :=
  match ungroup? s with
  | some digits => if digits.head? = some '0' ∧ digits.length ≠ 1 then none else some digits
  | none => none

def signed (negative : Bool) (n : Nat) : Option Datum :=
  let value : Int := if negative then -(n : Int) else n
  if Width.fits value then some (.integer value) else none

def isGrouped (c : Char) : Bool := Decimal.isDigit c || c == '_'

def tail? (s : List Char) : Option (List Char × Int) :=
  match s with
  | '.' :: rest =>
    match ungroup? (rest.takeWhile isGrouped), exponent? (rest.dropWhile isGrouped) with
    | some places, some power => some (places, power)
    | _, _ => none
  | [] => none
  | _ => (exponent? s).map ([], ·)
where
  exponent? : List Char → Option Int
    | [] => some 0
    | e :: rest =>
      if e = 'e' ∨ e = 'E' then
        let (negative, digits) :=
          match rest with
          | '-' :: digits => (true, digits)
          | '+' :: digits => (false, digits)
          | digits => (false, digits)
        ((ungroup? digits).bind (Text.numeral? 10)).map fun n => if negative then -(n : Int) else n
      else none

def decimal? (negative : Bool) (s : List Char) : Option Datum := do
  let whole ← whole? (s.takeWhile isGrouped)
  let n ← Text.numeral? 10 whole
  match s.dropWhile isGrouped with
  | [] => signed negative n
  | rest =>
    let (places, power) ← tail? rest
    let digits ← Text.numeral? 10 (whole ++ places)
    let x := Decimal.toDouble negative digits (power - places.length)
    if Decimal.parts x = .infinite false then none else some (.double x)

def afterSign? (negative : Bool) (s : List Char) : Option Datum :=
  if s = ['i', 'n', 'f'] then some (.double (Decimal.infinity negative))
  else if s = ['n', 'a', 'n'] then some (.double Decimal.notANumber)
  else decimal? negative s

def based? (base : Nat) (digits : List Char) : Option Datum :=
  ((ungroup? digits).bind (Text.numeral? base)).bind (signed false)

def scalar? (s : List Char) : Option Datum :=
  match s with
  | ['t', 'r', 'u', 'e'] => some (.bool true)
  | ['f', 'a', 'l', 's', 'e'] => some (.bool false)
  | '0' :: 'x' :: digits => based? 16 digits
  | '0' :: 'o' :: digits => based? 8 digits
  | '0' :: 'b' :: digits => based? 2 digits
  | '+' :: rest => afterSign? false rest
  | '-' :: rest => afterSign? true rest
  | _ => afterSign? false s

end RobotTeam.Toml
