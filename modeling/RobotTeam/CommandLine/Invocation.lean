import RobotTeam.CommandLine.Command

/-!
A whole command line: options, then a query with options of its own.
-/

namespace RobotTeam.CommandLine

inductive OutputForm where
  | full
  | json
  deriving DecidableEq, Repr, Inhabited

def OutputForm.text : OutputForm → String
  | .full => "full"
  | .json => "json"

structure Invocation where
  command : Option Command := none
  facts : Option String := none
  entries : List PoolEntry := []
  output : Option OutputForm := none
  verbosity : Nat := 0
  configuration : Option String := none
  noConfiguration : Bool := false
  showConfiguration : Bool := false
  deriving DecidableEq, Repr, Inhabited

namespace Invocation

def pool (i : Invocation) : Pool := poolOf i.entries

def outputForm (i : Invocation) : OutputForm := i.output.getD .full

def pathValue (s : String) : Except Misuse String :=
  if s.isEmpty then .error .invalidValue else .ok s

def outputValue (s : String) : Except Misuse OutputForm :=
  match [OutputForm.full, OutputForm.json].find? (·.text == s) with
  | some form => .ok form
  | none => .error .invalidValue

def addEntry (v : String) (i : Invocation) : Except Misuse Invocation :=
  match readEntry v with
  | .ok e => .ok { i with entries := i.entries ++ [e] }
  | .error _ => .error .rejectedValue

def moreVerbose (i : Invocation) : Except Misuse Invocation :=
  .ok { i with verbosity := Nat.min (i.verbosity + 1) 255 }

def rules : List (OptionRule Invocation) :=
  [⟨"facts", some 'f', .value (once (·.facts) (fun p i => { i with facts := some p }) pathValue)⟩,
   ⟨"pool", some 'p', .value addEntry⟩,
   ⟨"output", some 'o', .value (once (·.output) (fun f i => { i with output := some f }) outputValue)⟩,
   ⟨"verbose", some 'v', .switch moreVerbose⟩,
   ⟨"config", none,
     .value (once (·.configuration) (fun p i => { i with configuration := some p }) pathValue)⟩,
   ⟨"no-config", none,
     .switch (onceOn (·.noConfiguration) fun i => { i with noConfiguration := true })⟩,
   ⟨"show-config", none,
     .switch (onceOn (·.showConfiguration) fun i => { i with showConfiguration := true })⟩,
   helpRule,
   ⟨"version", some 'V', .switch fun _ => .error .versionWanted⟩]

/-- Reads a command line. What is wrong with the query is reported before what is wrong with the value
right before it. -/
def read (words : List String) : Except Misuse Invocation := do
  let (gathered, rest) ← gather rules QueryForm.commandWords ⟨{}, none⟩ words
  match rest with
  | none => gathered.settle
  | some (name, after) =>
    let command ← readCommand name after
    let invocation ← gathered.settle
    return { invocation with command := some command }

end Invocation

end RobotTeam.CommandLine
