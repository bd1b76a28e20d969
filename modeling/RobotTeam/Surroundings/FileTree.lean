import RobotTeam.Surroundings.Basic

/-!
Files held in memory, for surroundings without a disk. A path is followed step by step from the working
directory or, after a slash, from the root; the first step that leads nowhere decides why it fails.
-/

namespace RobotTeam

abbrev Steps := List String

/-- Files by their places. Directories are the places on the way to files. -/
structure FileTree where
  files : List (Steps × String)
  deriving Repr

namespace FileTree

def longestName : Nat := 255

def longestPath : Nat := 4095

/-- The names in a path; the empty ones at a slash too many stay in place. -/
def steps (path : String) : Steps := path.splitOn "/"

def plainSteps (path : String) : Steps := (steps path).filter fun s => s ≠ "" ∧ s ≠ "."

def ofFiles (below : Steps) (files : List (String × String)) : FileTree :=
  ⟨files.map fun f => (below ++ plainSteps f.1, f.2)⟩

def file? (t : FileTree) (place : Steps) : Option String := t.files.lookup place

def isDirectory (t : FileTree) (place : Steps) : Bool :=
  t.files.any fun f => place.isPrefixOf f.1 && place.length < f.1.length

def follow (t : FileTree) (here : Steps) : Steps → Except ReadFault String
  | [] => .error .directory
  | name :: rest =>
    if name = "" ∨ name = "." then t.follow here rest
    else if name = ".." then t.follow here.dropLast rest
    else if longestName < name.utf8ByteSize then .error .nameTooLong
    else
      match t.file? (here ++ [name]) with
      | some text => if rest.isEmpty then .ok text else .error .notDirectory
      | none => if t.isDirectory (here ++ [name]) then t.follow (here ++ [name]) rest else .error .absent

def read (t : FileTree) (here : Steps) (path : String) : Except ReadFault String :=
  if path = "" then .error .absent
  else if longestPath < path.utf8ByteSize then .error .nameTooLong
  else t.follow (if path.startsWith "/" then [] else here) (steps path)

end FileTree

end RobotTeam
