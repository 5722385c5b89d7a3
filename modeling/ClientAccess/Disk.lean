import ClientAccess.Text.Split
/-! A directory tree and the operations on it that a session file needs. A place is the list of the
names on the way to it from the root. An absolute path sets out from the root, any other one from
the working directory. There are no links, and nobody is denied anything. -/
namespace ClientAccess

inductive Disk.Node where
  | folder
  | file (bytes : ByteArray)

def Disk.Node.isFolder : Disk.Node → Bool
  | folder => true
  | file _ => false

/-- Nodes by their places. The working directory and those on the way to it are always there and
have no entries. -/
structure Disk where
  nodes : List (List String × Disk.Node)
  working : List String

namespace Disk

def empty : Disk := ⟨[], ["home", "work"]⟩

def node? (d : Disk) (place : List String) : Option Node :=
  (d.nodes.find? (·.1 == place)).map Prod.snd

def isFolder (d : Disk) (place : List String) : Bool :=
  place.isPrefixOf d.working || (d.node? place).any Node.isFolder

def inside (d : Disk) : List (List String × Node) :=
  (d.nodes.filter (d.working.isPrefixOf ·.1)).map fun (place, node) =>
    (place.drop d.working.length, node)

def unlink (d : Disk) (place : List String) : Disk :=
  { d with nodes := d.nodes.filter (·.1 != place) }

def put (d : Disk) (place : List String) (node : Node) : Disk :=
  { d with nodes := (place, node) :: (d.unlink place).nodes }

/-- A path that can be looked up at all: at most 4095 bytes, none of them zero. -/
def isPath (path : String) : Bool :=
  path.utf8ByteSize ≤ 4095 && !path.toList.contains (Char.ofNat 0)

-- A longer name is refused by the directory that should hold it.
def isName (name : String) : Bool := name.utf8ByteSize ≤ 255

def steps (path : String) : List String :=
  (path.toList.splitOn '/').map String.ofList

def isIdle (step : String) : Bool := step == "" || step == "."

def isAbsolute (path : String) : Bool := path.toList.head? == some '/'

def root (path : String) : String := if isAbsolute path then "/" else ""

def parent (path : String) : String :=
  match Text.dropEnd isIdle (Text.dropEnd isIdle (steps path)).dropLast with
  | [] => root path
  | front => "/".intercalate front

def tidy (path : String) : String :=
  root path ++ "/".intercalate (Text.dropEnd isIdle ((steps path).dropWhile isIdle))

/-- Where a path sets out from. -/
def origin (d : Disk) (path : String) : List String :=
  if isAbsolute path then [] else d.working

/-- One step from a place, which has to be a directory. At the root a step back stays there. -/
def enter (d : Disk) (place : List String) (step : String) : Option (List String) :=
  if !d.isFolder place then none
  else if isIdle step then some place
  else if step == ".." then some place.dropLast
  else if isName step then some (place ++ [step])
  else none

/-- The place a path leads to; the place itself need not exist. -/
def locate (d : Disk) (path : String) : Option (List String) :=
  if path == "" || !isPath path then none
  else (steps path).foldlM d.enter (d.origin path)

def read? (d : Disk) (path : String) : Option ByteArray := do
  match d.node? (← d.locate path) with
  | some (.file bytes) => some bytes
  | _ => none

inductive Operation where
  | makeFolders (path : String)
  | write (path : String) (bytes : ByteArray)
  | rename (source target : String)

/-- Goes on from a place step by step and makes the directories that are missing. -/
def makeSteps (d : Disk) (place : List String) : List String → Disk × Bool
  | [] => (d, true)
  | step :: steps =>
    match d.enter place step with
    | none => (d, false)
    | some next =>
      if d.isFolder next then d.makeSteps next steps
      else if (d.node? next).isSome then (d, false)
      else (d.put next .folder).makeSteps next steps

def makeFolders (d : Disk) (path : String) : Disk × Bool :=
  if isPath path then d.makeSteps (d.origin path) (steps path) else (d, false)

def write (d : Disk) (path : String) (bytes : ByteArray) : Disk × Bool :=
  match d.locate path with
  | none => (d, false)
  | some place => if d.isFolder place then (d, false) else (d.put place (.file bytes), true)

/-- Moves a file over another one or to a new name, never over a directory. -/
def rename (d : Disk) (source target : String) : Disk × Bool :=
  match d.locate source, d.locate target with
  | some old, some new =>
    match d.node? old with
    | some (.file bytes) =>
      if d.isFolder new then (d, false) else ((d.unlink old).put new (.file bytes), true)
    | _ => (d, false)
  | _, _ => (d, false)

def perform (d : Disk) : Operation → Disk × Bool
  | .makeFolders path => d.makeFolders path
  | .write path bytes => d.write path bytes
  | .rename source target => d.rename source target

-- The operations after one that fails are not tried.
def performAll (d : Disk) : List Operation → Disk × Bool
  | [] => (d, true)
  | op :: ops =>
    match d.perform op with
    | (d, true) => d.performAll ops
    | (d, false) => (d, false)

end ClientAccess.Disk
