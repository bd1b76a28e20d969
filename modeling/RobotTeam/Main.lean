import RobotTeam.Program

/-!
The command line program. Reading files and the environment happens here, everything else in the library.
-/

namespace RobotTeam

open CommandLine

def readFile (path : String) : IO (Except ReadFault String) := do
  try
    return .ok (← IO.FS.readFile path)
  catch
    | .noFileOrDirectory _ _ _ => return .error .absent
    | .inappropriateType _ code _ =>
      return .error (if code = 20 then .notDirectory else .directory)
    | .invalidArgument _ 36 _ => return .error .nameTooLong
    | e => return .error (.other (toString e))

def pathsOf (userFile : Option String) (words : List String) : List String :=
  let named :=
    match Invocation.read words with
    | .ok i => i.facts.toList ++ i.configuration.toList
    | .error _ => []
  userFile.toList ++ Surroundings.projectFiles ++ named

def survey (paths : List String) : IO (List (String × Except ReadFault String)) :=
  paths.mapM fun path => do return (path, ← readFile path)

def userFile : IO (Option String) := do
  let home ← IO.getEnv "HOME"
  let folder := (← IO.getEnv "XDG_CONFIG_HOME").filter (·.startsWith "/")
  let folder := folder.or (home.map (· ++ "/.config"))
  return folder.map (· ++ "/orgmodel/config.toml")

def environment : IO (List (String × String)) := do
  match ← readFile "/proc/self/environ" with
  | .error _ => return []
  | .ok text =>
    return (text.splitOn "\x00").filterMap fun line =>
      match line.splitOn "=" with
      | name :: value => some (name, "=".intercalate value)
      | [] => none

def surroundings (words : List String) : IO Surroundings := do
  let userFile ← userFile
  let files ← survey (pathsOf userFile words)
  return ⟨fun path => (files.lookup path).getD (.error .absent), ← environment, userFile⟩

def conclude : Program.Outcome → IO UInt32
  | .output text => do
    IO.print text
    return 0
  | .refused reason => do
    IO.eprintln s!"Error: {reason.message}"
    return 1
  | .misused misuse => do
    IO.eprintln s!"error: {misuse.message}"
    return 2

end RobotTeam

def main (words : List String) : IO UInt32 := do
  let w ← RobotTeam.surroundings words
  let coloured := (← IO.getEnv "NO_COLOR").isNone && (← (← IO.getStdout).isTty)
  RobotTeam.conclude (RobotTeam.Program.run w coloured words)
