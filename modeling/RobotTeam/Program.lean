import RobotTeam.CommandLine.Invocation
import RobotTeam.Configuration.Layers
import RobotTeam.Document.FactBases
import RobotTeam.Matching.Allocation
import RobotTeam.Organization.Support
import RobotTeam.Organization.Transport
import RobotTeam.Report.Console

/-!
The program: from a command line and what it finds around it to the text that it prints, or to the
reason why it refuses.
-/

namespace RobotTeam.Program

open CommandLine

inductive Refusal where
  | noQuery
  | noFacts
  | badConfiguration
  | configuration (fault : ConfigurationFault)
  | unreadableFacts (path : String) (fault : ReadFault)
  | malformedFacts
  | facts (fault : FactError)
  | emptyPool
  | query (error : QueryError)

def Refusal.message : Refusal → String
  | .noQuery => "A query is required. See --help for the available queries."
  | .noFacts => "A fact base is required: --facts <PATH>"
  | .badConfiguration => "failed to load configuration"
  | .configuration fault => fault.message
  | .unreadableFacts path fault => s!"Failed to read fact base '{path}': {fault.message}"
  | .malformedFacts => "Failed to parse fact base"
  | .facts fault => fault.message
  | .emptyPool => "The model pool is empty. Add models with --pool MODEL[=COUNT]."
  | .query error => error.message

inductive Outcome where
  | output (text : String)
  | refused (reason : Refusal)
  | misused (misuse : Misuse)

def refuse {ε α : Type} (cause : ε → Refusal) : Except ε α → Except Refusal α
  | .ok a => .ok a
  | .error e => .error (cause e)

def loadConfiguration (w : Surroundings) (i : Invocation) : Except Refusal Configuration :=
  if i.noConfiguration then .ok {}
  else
    match Configuration.load? w i.configuration with
    | some c => .ok c
    | none => .error .badConfiguration

def loadFacts (w : Surroundings) (path : String) : Except Refusal FactBase :=
  match w.read path with
  | .error fault => .error (.unreadableFacts path fault)
  | .ok text =>
    match Facts.ofToml? text with
    | some facts => refuse .facts facts.load
    | none => .error .malformedFacts

def answer (a : Organization FactBase) (d : Redundancy.Defaults) : Command → Attempt Report
  | .mapping => return .ofMapping a.mapping
  | .support service model count => do
    let degree ← ExceptT.lift (a.support service model count)
    return .support service model count degree
  | .saturation services => do
    let bounds ← ExceptT.lift (a.saturationOfServices (Std.ExtTreeSet.ofList services))
    return .saturation services bounds
  | .resourceSupport services =>
    return .resourceSupport services (a.resourceSupport (Std.ExtTreeSet.ofList services)).toList
  | .redundancy services exclusive => do
    let survival ← Redundancy.ofServices (d.scale a.ontology) a (!exclusive)
      (Std.ExtTreeSet.ofList services) a.pool
    return .redundancy services a.pool (!exclusive) survival
  | .metricMap => do
    let entries ← Redundancy.table (d.scale a.ontology) a
    return .metricMap entries
  | .transportCapacity agent model => do
    let capacity ← a.transportCapacity (Pool.single agent 1) model
    return .transportCapacity agent model capacity

def runQuery (base : FactBase) (pool : Pool) (s : Settings) (d : Redundancy.Defaults)
    (command : Command) : Except QueryError Report := do
  let matcher : Allocation := ⟨s.property⟩
  let a ← Organization.build base matcher pool s
  ((answer a d command).run.run base (⟨∅, matcher⟩ : Session Allocation)).1

/-- Everything is checked in this order: query and facts are given, the configuration, the fact base,
and that there is a pool unless only the mapping is asked for. -/
def report (w : Surroundings) (i : Invocation) : Except Refusal Report := do
  let some command := i.command | throw .noQuery
  let some path := i.facts | throw .noFacts
  let configuration ← loadConfiguration w i
  let settings ← refuse .configuration configuration.ask.resolve
  let defaults ← refuse .configuration configuration.metrics.resolve
  let base ← loadFacts w path
  if i.pool.isEmpty && command != .mapping then throw .emptyPool
  refuse .query (runQuery base i.pool settings defaults command)

def render (coloured : Bool) (i : Invocation) (r : Report) : String :=
  match i.outputForm with
  | .full => r.toConsole coloured
  | .json => r.toJson

def listSources (w : Surroundings) : String :=
  "Configuration sources (in priority order):\n"
    ++ String.join ((Configuration.sources w).map fun source => s!"  {source}\n")

def versionText : String := "orgmodel 0.4.0\n"

def helpLines : List String :=
  ["Organization model queries - functionality support and redundancy of robot teams",
   "",
   "Usage: orgmodel [OPTIONS] [COMMAND]",
   "",
   "Commands:",
   "  mapping",
   "  support -s <SERVICE> -m <MODEL> [-c <COUNT>]",
   "  saturation -s <SERVICE>...",
   "  resource-support -s <SERVICE>...",
   "  redundancy -s <SERVICE>... [--exclusive]",
   "  metric-map",
   "  transport-capacity -a <AGENT> -m <MODEL>",
   "  help",
   "",
   "Options:",
   "  -f, --facts <PATH>",
   "  -p, --pool <MODEL[=COUNT]>",
   "  -o, --output <full|json>",
   "  -v, --verbose",
   "      --config <PATH>",
   "      --no-config",
   "      --show-config",
   "  -h, --help",
   "  -V, --version"]

def helpText : String := String.join (helpLines.map (· ++ "\n"))

def run (w : Surroundings) (coloured : Bool) (words : List String) : Outcome :=
  match Invocation.read words with
  | .error .helpWanted => .output helpText
  | .error .versionWanted => .output versionText
  | .error misuse => .misused misuse
  | .ok i =>
    if i.showConfiguration then .output (listSources w)
    else
      match report w i with
      | .ok r => .output (render coloured i r ++ "\n")
      | .error reason => .refused reason

end RobotTeam.Program
