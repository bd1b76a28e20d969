import RobotTeam.Text.Lowercase
import RobotTeam.Text.MarkTable
import RobotTeam.Text.PrintTable

/-!
Quoted texts for diagnostics: in double quotes, with escapes for quotes, backslashes and whatever
leaves no mark of its own.
-/

namespace RobotTeam.Text

def fillers : List Nat := [0x115F, 0x1160, 0x3164, 0xFFA0]

/-- The halfwidth sound marks, which have a width of their own although they belong to the character
before them. -/
def soundMarks : List Nat := [0xFF9E, 0xFF9F]

def isCombining (c : Char) : Bool := inRanges combiningRanges c && !soundMarks.contains c.toNat

def isShown (c : Char) : Bool :=
  (' ' ≤ c && c ≤ '~')
    || !(inRanges unprintableRanges c || isCombining c || fillers.contains c.toNat)

def hexDigits (n : Nat) : List Char := Nat.toDigits 16 n

def escape (c : Char) : List Char :=
  if c = '"' then ['\\', '"']
  else if c = '\\' then ['\\', '\\']
  else if c = '\t' then ['\\', 't']
  else if c = '\n' then ['\\', 'n']
  else if c = '\r' then ['\\', 'r']
  else if c.toNat = 0 then ['\\', '0']
  else if isShown c then [c]
  else ['\\', 'u', '\x7b'] ++ hexDigits c.toNat ++ ['\x7d']

def quoted (s : String) : String :=
  String.ofList (['"'] ++ s.toList.flatMap escape ++ ['"'])

end RobotTeam.Text
