import RobotTeam.CommandLine.Names
import RobotTeam.CommandLine.Options

/-!
The queries of the command line and their options.
-/

namespace RobotTeam.CommandLine

inductive Command where
  | mapping
  | support (service model : Iri) (count : Nat)
  | saturation (services : List Iri)
  | resourceSupport (services : List Iri)
  | redundancy (services : List Iri) (exclusive : Bool)
  | metricMap
  | transportCapacity (agent model : Iri)
  deriving DecidableEq, Repr, Inhabited

structure Draft where
  services : List Iri := []
  model : Option Iri := none
  agent : Option Iri := none
  count : Option Nat := none
  exclusive : Bool := false

def nameValue (s : String) : Except Misuse Iri :=
  match readName s with
  | .ok i => .ok i
  | .error _ => .error .rejectedValue

/-- A count as an option has it: an integer, which may be written as minus zero. -/
def countValue (s : String) : Except Misuse Nat :=
  match s.toList with
  | '-' :: '0' :: zeros => if zeros.all (· == '0') then .ok 0 else .error .rejectedValue
  | digits =>
    match Decimal.readNat Count.limit digits with
    | .ok n => .ok n
    | .error _ => .error .rejectedValue

namespace Draft

def service : OptionRule Draft :=
  ⟨"service", some 's', .value (once (·.services.head?) (fun i d => { d with services := [i] }) nameValue)⟩

def anyServices : OptionRule Draft :=
  ⟨"service", some 's', .value fun v d => do
    let i ← nameValue v
    return { d with services := d.services ++ [i] }⟩

def modelName : OptionRule Draft :=
  ⟨"model", some 'm', .value (once (·.model) (fun i d => { d with model := some i }) nameValue)⟩

def agentName : OptionRule Draft :=
  ⟨"agent", some 'a', .value (once (·.agent) (fun i d => { d with agent := some i }) nameValue)⟩

def instanceCount : OptionRule Draft :=
  ⟨"count", some 'c', .value (once (·.count) (fun n d => { d with count := some n }) countValue)⟩

def exclusiveUse : OptionRule Draft :=
  ⟨"exclusive", none, .switch (onceOn (·.exclusive) fun d => { d with exclusive := true })⟩

def need {β : Type} : Option β → Except Misuse β
  | some b => .ok b
  | none => .error .missingArgument

def needServices (d : Draft) : Except Misuse (List Iri) :=
  if d.services.isEmpty then .error .missingArgument else .ok d.services

end Draft

structure QueryForm where
  name : String
  rules : List (OptionRule Draft)
  finish : Draft → Except Misuse Command

namespace QueryForm

open Draft

def all : List QueryForm :=
  [⟨"mapping", [], fun _ => .ok .mapping⟩,
   ⟨"support", [service, modelName, instanceCount], fun d => do
      let service ← need d.services.head?
      let model ← need d.model
      return .support service model (d.count.getD 1)⟩,
   ⟨"saturation", [anyServices], fun d => d.needServices.map .saturation⟩,
   ⟨"resource-support", [anyServices], fun d => d.needServices.map .resourceSupport⟩,
   ⟨"redundancy", [anyServices, exclusiveUse], fun d =>
      d.needServices.map fun services => .redundancy services d.exclusive⟩,
   ⟨"metric-map", [], fun _ => .ok .metricMap⟩,
   ⟨"transport-capacity", [agentName, modelName], fun d => do
      let agent ← need d.agent
      let model ← need d.model
      return .transportCapacity agent model⟩]

def commandWords : List String := all.map (·.name) ++ ["help"]

def read (form : QueryForm) (words : List String) : Except Misuse Command := do
  let (gathered, _) ← gather (helpRule :: form.rules) [] ⟨{}, none⟩ words
  let draft ← gathered.settle
  form.finish draft

def readHelp : List String → Misuse
  | [] => .helpWanted
  | [name] => if commandWords.contains name then .helpWanted else .unknownCommand
  | _ => .unknownCommand

end QueryForm

def readCommand (name : String) (words : List String) : Except Misuse Command :=
  match QueryForm.all.find? (·.name == name) with
  | some form => form.read words
  | none => .error (QueryForm.readHelp words)

end RobotTeam.CommandLine
