import RobotTeam.Document.Datum

/-!
Tables of a TOML document while it is read. A table is opened once by its header, or made along the
way to something deeper; dotted keys add only to tables that dotted keys have made.
-/

namespace RobotTeam.Toml

/-- How a table came to be, which decides what may still be done with it. -/
inductive Origin where
  /-- It has a header of its own. -/
  | header
  /-- It was made on the way to the table of a header. -/
  | implied
  /-- It was made on the way along a dotted key. -/
  | dotted
  deriving DecidableEq, Repr

inductive Node where
  | value (d : Datum)
  | table (origin : Origin) (children : List (String × Node))
  | tables (elements : List (List (String × Node)))
  deriving Inhabited

abbrev Children := List (String × Node)

def replaceChild (name : String) (n : Node) (children : Children) : Children :=
  children.map fun c => if c.1 = name then (name, n) else c

/-- Changes the table at the end of a path and makes the tables on the way that do not exist. In a
list of tables the way goes through the last one. -/
def change (made : Origin) (act : Origin → Children → Option Children) :
    List String → Origin → Children → Option Children
  | [], origin, children => act origin children
  | name :: rest, _, children =>
    match children.lookup name with
    | none =>
      (change made act rest made []).map fun inner => children ++ [(name, .table made inner)]
    | some (.value _) => none
    | some (.table origin inner) =>
      if made = .dotted ∧ origin = .header then none
      else
        (change made act rest origin inner).map fun inner =>
          replaceChild name (.table origin inner) children
    | some (.tables elements) =>
      match elements.getLast? with
      | none => none
      | some inner =>
        (change made act rest .header inner).map fun inner =>
          replaceChild name (.tables (elements.dropLast ++ [inner])) children

def addLast (dotted : Bool) (name : String) (d : Datum) (origin : Origin) (children : Children) :
    Option Children :=
  if (origin = .dotted) = dotted ∧ (children.lookup name).isNone then
    some (children ++ [(name, .value d)])
  else none

def addValue (key : List String) (d : Datum) (origin : Origin) (children : Children) :
    Option Children :=
  match key.getLast? with
  | none => none
  | some name => change .dotted (addLast (1 < key.length) name d) key.dropLast origin children

def openLast (name : String) (_ : Origin) (children : Children) : Option Children :=
  match children.lookup name with
  | none => some (children ++ [(name, .table .header [])])
  | some (.table .implied inner) => some (replaceChild name (.table .header inner) children)
  | some _ => none

def appendLast (name : String) (_ : Origin) (children : Children) : Option Children :=
  match children.lookup name with
  | none => some (children ++ [(name, .tables [[]])])
  | some (.tables elements) => some (replaceChild name (.tables (elements ++ [[]])) children)
  | some _ => none

def openTable (listed : Bool) (path : List String) (root : Children) : Option Children :=
  match path.getLast? with
  | none => none
  | some name =>
    change .implied (if listed then appendLast name else openLast name) path.dropLast .header root

mutual

def Node.toDatum : Node → Datum
  | .value d => d
  | .table _ children => .record (childFields children)
  | .tables elements => .list (elementData elements)

def childFields : List (String × Node) → List (String × Datum)
  | [] => []
  | (name, n) :: rest => (name, n.toDatum) :: childFields rest

def elementData : List (List (String × Node)) → List Datum
  | [] => []
  | children :: rest => .record (childFields children) :: elementData rest

end

end RobotTeam.Toml
