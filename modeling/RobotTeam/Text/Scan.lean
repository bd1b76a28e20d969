/-!
Scans take something off the front of a text, or fail.
-/

namespace RobotTeam

abbrev Scan := StateT (List Char) Option

namespace Scan

def peek? : Scan (Option Char) := do return (← get).head?

def atEnd : Scan Bool := do return (← get).isEmpty

def next : Scan Char := do
  match ← get with
  | [] => failure
  | c :: rest => set rest; return c

def accepts (c : Char) : Scan Bool := do
  match ← get with
  | [] => return false
  | x :: rest => if x = c then do set rest; return true else return false

def expect (c : Char) : Scan Unit := do
  if !(← accepts c) then failure

def acceptsWord (w : List Char) : Scan Bool := do
  let s ← get
  if w.isPrefixOf s then set (s.drop w.length); return true
  else return false

def run (p : Char → Bool) : Scan (List Char) := do
  let (taken, rest) := (← get).span p
  set rest
  return taken

def skip (p : Char → Bool) : Scan Unit := do modify (·.dropWhile p)

def exactly (n : Nat) : Scan (List Char) := do
  let s ← get
  let taken := s.take n
  if taken.length < n then failure
  set (s.drop n)
  return taken

def whole? {α : Type} (scan : Scan α) (s : List Char) : Option α :=
  match scan s with
  | some (a, []) => some a
  | _ => none

end Scan

end RobotTeam
