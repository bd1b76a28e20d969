/-!
Options on a command line. Long options start with two dashes and may carry their value after an
equals sign; short ones start with one dash, can be joined, and may carry their value right away. A
value that stands on its own is taken over when the next option is met, or at the end.
-/

namespace RobotTeam.CommandLine

inductive Misuse where
  | missingArgument
  | unknownCommand
  | unknownArgument
  | invalidValue
  | rejectedValue
  | repeated
  | surplusValue
  | helpWanted
  | versionWanted
  deriving DecidableEq, Repr

def Misuse.message : Misuse → String
  | .missingArgument => "a required argument was not given"
  | .unknownCommand => "there is no such query"
  | .unknownArgument => "there is no such argument here"
  | .invalidValue => "a value is missing or is not one of those allowed"
  | .rejectedValue => "a value could not be understood"
  | .repeated => "an argument was given more than once"
  | .surplusValue => "a value was given to an argument that takes none"
  | .helpWanted => "help"
  | .versionWanted => "version"

inductive Effect (α : Type) where
  | switch (act : α → Except Misuse α)
  | value (act : String → α → Except Misuse α)

structure OptionRule (α : Type) where
  long : String
  short : Option Char
  effect : Effect α

/-- An option that waits for its value, or has got it without its being looked at. -/
structure Pending (α : Type) where
  act : String → α → Except Misuse α
  value : Option String

structure Gathered (α : Type) where
  soFar : α
  pending : Option (Pending α)

namespace Gathered

variable {α : Type}

def isWaiting (g : Gathered α) : Bool :=
  match g.pending with
  | some p => p.value.isNone
  | none => false

def settle (g : Gathered α) : Except Misuse α :=
  match g.pending with
  | none => .ok g.soFar
  | some p =>
    match p.value with
    | none => .error .invalidValue
    | some v => p.act v g.soFar

def give (g : Gathered α) (v : String) : Gathered α :=
  { g with pending := g.pending.map fun p => { p with value := some v } }

def apply (g : Gathered α) (act : α → Except Misuse α) : Except Misuse (Gathered α) := do
  let before ← g.settle
  let after ← act before
  return ⟨after, none⟩

def await (g : Gathered α) (act : String → α → Except Misuse α) : Except Misuse (Gathered α) := do
  let before ← g.settle
  return ⟨before, some ⟨act, none⟩⟩

end Gathered

section

variable {α : Type} (rules : List (OptionRule α))

def splitLong (body : List Char) : String × Option String :=
  let name := String.ofList (body.takeWhile (· ≠ '='))
  match body.dropWhile (· ≠ '=') with
  | [] => (name, none)
  | _ :: value => (name, some (String.ofList value))

def longOption (body : List Char) (g : Gathered α) : Except Misuse (Gathered α) :=
  let (name, value) := splitLong body
  match rules.find? (·.long == name), value with
  | none, _ => .error .unknownArgument
  | some ⟨_, _, .switch act⟩, none => g.apply act
  | some ⟨_, _, .switch _⟩, some _ => .error .surplusValue
  | some ⟨_, _, .value act⟩, some v => g.apply (act v)
  | some ⟨_, _, .value act⟩, none => g.await act

/-- A value that follows its option right away; an equals sign before it is dropped. -/
def attached : List Char → String
  | '=' :: value => String.ofList value
  | value => String.ofList value

def shortOptions : List Char → Gathered α → Except Misuse (Gathered α)
  | [], g => .ok g
  | c :: rest, g =>
    match rules.find? (·.short == some c) with
    | none => .error .unknownArgument
    | some ⟨_, _, .switch act⟩ => do shortOptions rest (← g.apply act)
    | some ⟨_, _, .value act⟩ => if rest.isEmpty then g.await act else g.apply (act (attached rest))

/-- What a word is that stands neither for an option nor for a value. -/
def stray (commands : List String) : Misuse :=
  if commands.isEmpty then .unknownArgument else .unknownCommand

/-- After two dashes nothing is an option, and commands have to come before them. -/
def afterDashes (commands : List String) (g : Gathered α) :
    List String → Except Misuse (Gathered α × Option (String × List String))
  | [] => .ok (g, none)
  | word :: _ => .error (if commands.contains word then .unknownArgument else stray commands)

def gather (commands : List String) (g : Gathered α) :
    List String → Except Misuse (Gathered α × Option (String × List String))
  | [] => .ok (g, none)
  | word :: rest =>
    if !g.isWaiting && commands.contains word then .ok (g, some (word, rest))
    else
      match word.toList with
      | ['-', '-'] => afterDashes commands g rest
      | '-' :: '-' :: body => do gather commands (← longOption rules body g) rest
      | '-' :: c :: body => do gather commands (← shortOptions rules (c :: body) g) rest
      | _ =>
        if g.isWaiting then gather commands (g.give word) rest else .error (stray commands)

end

def once {α β : Type} (get : α → Option β) (put : β → α → α) (read : String → Except Misuse β)
    (v : String) (soFar : α) : Except Misuse α :=
  if (get soFar).isSome then .error .repeated else (read v).map (put · soFar)

def onceOn {α : Type} (get : α → Bool) (on : α → α) (soFar : α) : Except Misuse α :=
  if get soFar then .error .repeated else .ok (on soFar)

def helpRule {α : Type} : OptionRule α := ⟨"help", some 'h', .switch fun _ => .error .helpWanted⟩

end RobotTeam.CommandLine
