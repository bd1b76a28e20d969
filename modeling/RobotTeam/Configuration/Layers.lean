import RobotTeam.Configuration.Environment
import RobotTeam.Document.Configurations
import RobotTeam.Surroundings.Basic

/-!
Configurations from several sources. Files come first, from the user's one to the one that is named on
the command line, then the environment. Later values replace earlier ones before anything is checked.
-/

namespace RobotTeam

mutual

/-- Lays a value over another one. Records are merged, everything else is replaced. -/
def overlay : Datum → Datum → Datum
  | .record upper, below =>
    match below with
    | .record fields => .record (overlayFields upper fields)
    | _ => .record upper
  | upper, _ => upper

def overlayFields : List (String × Datum) → Fields → Fields
  | [], below => below
  | (name, d) :: rest, below =>
    match below.lookup name with
    | some old =>
      overlayFields rest (below.map fun f => if f.1 = name then (name, overlay d old) else f)
    | none => overlayFields rest (below ++ [(name, d)])

end

namespace Configuration

/-- The record that a file holds. A file that cannot be read counts as empty. -/
def fileLayer (w : Surroundings) (path : String) : Option Datum :=
  match w.read path with
  | .ok text => Toml.read? text
  | .error _ => some (.record [])

def stack (layers : List Datum) : Datum :=
  layers.foldl (fun below upper => overlay upper below) (.record [])

def variableLayer (w : Surroundings) : Datum :=
  let sorted := w.environment.mergeSort fun a b => (compare a.1 b.1).isLE
  stack (sorted.filterMap fun v =>
    (Environment.path? v.1).map fun path => Environment.nest path (Environment.read v.2))

def layers? (w : Surroundings) (file : Option String) : Option (List Datum) := do
  let files := [w.userFile, w.projectFile?, file].filterMap id
  let read ← files.mapM (fileLayer w)
  return read ++ [variableLayer w]

def load? (w : Surroundings) (file : Option String) : Option Configuration := do
  let layers ← layers? w file
  Codec.read? .toml (stack layers)

def sources (w : Surroundings) : List String :=
  let project :=
    match w.projectFile? with
    | some path => s!"[FOUND] Project: {path}"
    | none => "[     ] Project: ./orgmodel.toml or ./.orgmodel.toml"
  let user := w.userFile.map fun path =>
    (if w.holds path then "[FOUND] Global:  " else "[     ] Global:  ") ++ path
  [project] ++ user.toList ++ ["[     ] Default: built-in defaults"]

end Configuration

end RobotTeam
