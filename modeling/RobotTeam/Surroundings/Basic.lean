/-!
What a program finds around it: files, environment variables, and the place of the user's own
configuration file.
-/

namespace RobotTeam

inductive ReadFault where
  | absent
  /-- What is there is a directory. -/
  | directory
  /-- The path goes on after a file. -/
  | notDirectory
  | nameTooLong
  | other (text : String)
  deriving DecidableEq, Repr

def ReadFault.message : ReadFault → String
  | .absent => "No such file or directory (os error 2)"
  | .directory => "Is a directory (os error 21)"
  | .notDirectory => "Not a directory (os error 20)"
  | .nameTooLong => "File name too long (os error 36)"
  | .other text => text

structure Surroundings where
  read : String → Except ReadFault String
  environment : List (String × String)
  /-- The path of the user's configuration file. -/
  userFile : Option String

namespace Surroundings

def holds (w : Surroundings) (path : String) : Bool :=
  match w.read path with
  | .ok _ => true
  | .error .directory => true
  | .error _ => false

/-- The configuration files of a project. The first one that exists counts. -/
def projectFiles : List String := ["./orgmodel.toml", "./.orgmodel.toml"]

def projectFile? (w : Surroundings) : Option String := projectFiles.find? w.holds

end Surroundings

end RobotTeam
