import Provisioning.Storage.FileSystem
/-!
# A file system in memory

* `FileTree` : files and directories under one root;
* `FileTree.locate?` : where a path leads; all but its last step have to be directories;
* `FileTree.fileSystem` : the tree as a file system.
-/

namespace Provisioning
open Text

/-- The names that lead from the root to a place. -/
abbrev Location := List String

inductive Node
  | file (bytes : List UInt8)
  | directory
  deriving DecidableEq, Repr

structure FileTree where
  nodes : List (Location × Node)
  /-- Where a path that does not start at the root starts. -/
  workingDirectory : Location
  deriving DecidableEq, Repr

namespace FileTree

def node? (t : FileTree) (l : Location) : Option Node :=
  if l = [] then some .directory else (t.nodes.find? (·.1 == l)).map (·.2)

def isDirectory (t : FileTree) (l : Location) : Bool := t.node? l == some .directory

/-- Puts a node at a place, instead of the one that is there. -/
def put (t : FileTree) (l : Location) (n : Node) : FileTree :=
  { t with nodes := t.nodes.filter (·.1 != l) ++ [(l, n)] }

def start (t : FileTree) (path : String) : Location × List String :=
  match (splitOn '/' path.toList).map String.ofList with
  | "" :: names => ([], names)
  | names => (t.workingDirectory, names)

def enter (l : Location) (name : String) : Location :=
  if name = "" ∨ name = "." then l else if name = ".." then l.dropLast else l ++ [name]

def locate? (t : FileTree) (path : String) : Option Location :=
  if path.isEmpty then none
  else
    let (l, names) := t.start path
    names.foldlM (fun l name => if t.isDirectory l then some (enter l name) else none) l

def contains (t : FileTree) (path : String) : Bool :=
  (t.locate? path).any fun l => (t.node? l).isSome

def read (t : FileTree) (path : String) : Option (List UInt8) :=
  match (t.locate? path).bind t.node? with
  | some (.file bytes) => some bytes
  | _ => none

def makeDirectory (state : FileTree × Location) (name : String) : Option (FileTree × Location) :=
  let (t, l) := state
  let l := enter l name
  match t.node? l with
  | some .directory => some (t, l)
  | some (.file _) => none
  | none => some (t.put l .directory, l)

def createDirectories? (t : FileTree) (path : String) : Option FileTree :=
  let (l, names) := t.start path
  (names.foldlM makeDirectory (t, l)).map (·.1)

def write? (t : FileTree) (path : String) (bytes : List UInt8) : Option FileTree := do
  let l ← t.locate? path
  if t.isDirectory l then none else some (t.put l (.file bytes))

def openLog? (t : FileTree) (path : String) : Option FileTree := do
  let l ← t.locate? path
  match t.node? l with
  | some .directory => none
  | some (.file _) => some t
  | none => some (t.put l (.file []))

def change (f : FileTree → Option FileTree) : StateM FileTree Bool := fun t =>
  match f t with
  | some u => (true, u)
  | none => (false, t)

def fileSystem : FileSystem (StateM FileTree) where
  contains path := fun t => (t.contains path, t)
  read path := fun t => (t.read path, t)
  createDirectories path := change (·.createDirectories? path)
  write path bytes := change (·.write? path bytes)
  openLog path := change (·.openLog? path)

end FileTree

end Provisioning
