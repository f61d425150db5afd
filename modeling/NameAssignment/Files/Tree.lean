import NameAssignment.Files

/-!
A file system held in memory: a tree of directories and files below one directory, from which all
paths start.
-/

namespace NameAssignment

/-- What stands at a place in the tree. -/
inductive FileNode
  | file (content : ByteArray)
  | directory

/-- The nodes below the starting directory, by the parts of their paths. -/
structure FileTree where
  nodes : List (List String × FileNode)

namespace FileTree

def empty : FileTree := ⟨[]⟩

/-- What stands at a place; the starting directory is always there. -/
def node? (tree : FileTree) : List String → Option FileNode
  | [] => some .directory
  | place => tree.nodes.lookup place

/-- One step from a place, which must be a directory. -/
def enter (tree : FileTree) (place : List String) (name : String) :
    Except FileError (List String) :=
  match tree.node? place with
  | none => .error .notFound
  | some (.file _) => .error .notADirectory
  | some .directory =>
    if name = "." then .ok place
    else if name = ".." then .ok place.dropLast
    else if Path.nameLimit < name.utf8ByteSize then .error .nameTooLong
    else .ok (place ++ [name])

/-- Follows steps from the starting directory. -/
def follow (tree : FileTree) (steps : List String) : Except FileError (List String) :=
  steps.foldlM tree.enter []

/-- Refuses a path that cannot lead anywhere. -/
def checkPath (path : String) : Except FileError Unit :=
  match Path.fault? path with
  | some fault => .error fault
  | none => .ok ()

/-- What a path leads to, if something is there. -/
def find (tree : FileTree) (path : String) : Except FileError FileNode := do
  checkPath path
  match tree.node? (← tree.follow (Path.steps path)) with
  | none => .error .notFound
  | some .directory => .ok .directory
  | some (.file content) =>
    if Path.endsInSlash path then .error .notADirectory else .ok (.file content)

def isPresent (tree : FileTree) (path : String) : Bool :=
  match tree.find path with
  | .ok _ => true
  | .error _ => false

def read (tree : FileTree) (path : String) : Except FileError ByteArray := do
  match ← tree.find path with
  | .directory => .error .isADirectory
  | .file content => .ok content

/-- Puts a node in a place. -/
def put (tree : FileTree) (place : List String) (node : FileNode) : FileTree :=
  ⟨(place, node) :: tree.nodes.filter (·.1 ≠ place)⟩

/-- The place for a file to be written. A last step that can only mean a directory is refused as
soon as the steps before it are known to lead to one. -/
def placeFor (tree : FileTree) (path : String) : Except FileError (List String) := do
  checkPath path
  let steps := Path.steps path
  let above ← tree.follow steps.dropLast
  let last := steps.getLastD "."
  if last = "." ∨ last = ".." ∨ Path.endsInSlash path then
    discard (tree.enter above ".")
    throw .isADirectory
  tree.enter above last

/-- Writes a file, in place of one that is there. -/
def write (tree : FileTree) (path : String) (content : ByteArray) : Except FileError FileTree := do
  let place ← tree.placeFor path
  match tree.node? place with
  | some .directory => .error .isADirectory
  | _ => .ok (tree.put place (.file content))

/-- Makes a directory unless something is there. -/
def makeDirectory (tree : FileTree) (path : String) : Except FileError FileTree := do
  checkPath path
  let place ← tree.follow (Path.steps path)
  match tree.node? place with
  | none => .ok (tree.put place .directory)
  | some _ => .ok tree

/-- The tree as a file system. -/
def access : FileAccess (StateM FileTree) where
  isPresent path := do
    return (← get).isPresent path
  readBytes path := do
    return (← get).read path
  writeText path text := do
    match (← get).write path text.toUTF8 with
    | .error cause => return .error cause
    | .ok tree => set tree; return .ok ()

end FileTree

end NameAssignment
