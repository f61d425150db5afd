import NameAssignment.Manifest
import NameAssignment.Resolution
import NameAssignment.Template

/-!
From a manifest to the graph it describes.

Handles are given out in order of declaration, so the handles of all namespaces and members are
known before any is added; that is what lets a reference point forward. Reserved words take handles
in front of their namespace's members. The naming function `default` is there whether declared or
not, and comes first if it is not declared; the others follow in the order of their names.
-/

namespace NameAssignment

/-- A graph built from a manifest. -/
structure BuiltManifest where
  graph : Graph
  /-- The namespaces without a parent, in order of declaration. -/
  roots : List NamespaceRef
  /-- The handle of every declared member. -/
  ids : NameMap EntityRef
  /-- The declared id of every declared member. -/
  labels : Table .entities String

namespace BuiltManifest

/-- The declared id of a member, or a reserved word itself. -/
def label (built : BuiltManifest) (handle : EntityRef) : String :=
  (built.labels.get? handle).getD (built.graph.label handle).name

def resolve (built : BuiltManifest) (guarded : Bool) : Logged Resolution :=
  built.graph.resolve guarded built.roots

end BuiltManifest

namespace Manifest

/-- The naming functions of a manifest by name, in the order in which they are added. -/
def fillers (manifest : Manifest) (filler : Char) : List (String × Char) :=
  let declared := manifest.functions.entries.map fun (name, entry) => (name, entry.filler)
  if manifest.functions.contains defaultFunction then declared
  else (defaultFunction, filler) :: declared

/-- The handles of the naming functions. -/
def functionIds (manifest : Manifest) (filler : Char) : NameMap FunctionRef :=
  .ofList ((manifest.fillers filler).zipIdx.map fun (entry, index) => (entry.1, ⟨index⟩))

/-- A graph with the manifest's naming functions and nothing else. -/
def functionGraph (manifest : Manifest) (filler : Char) : Graph :=
  (manifest.fillers filler).foldl (fun graph entry => graph.addFunction (Counting.names entry.2))
    .empty

/-- Enters names with their handles; a name that comes a second time is refused. -/
def enterAll {arena : Arena} (fault : String → ManifestFault) :
    NameMap (Handle arena) → List (String × Handle arena) → Except Error (NameMap (Handle arena))
  | entered, [] => .ok entered
  | entered, (name, handle) :: rest =>
    if entered.contains name then .error (.manifest (fault name))
    else enterAll fault (entered.insert name handle) rest

/-- The declared namespaces with the handles they get. -/
def namespaceHandles (manifest : Manifest) : List (String × NamespaceRef) :=
  manifest.namespaces.zipIdx.map fun (entry, index) => (entry.name, ⟨index⟩)

def namespaceIds (manifest : Manifest) : Except Error (NameMap NamespaceRef) :=
  enterAll .duplicateNamespace .empty manifest.namespaceHandles

/-- The members of the namespaces with the handles they get, the first entity getting `next`. -/
def memberHandlesFrom : Nat → List NamespaceEntry → List (String × EntityRef)
  | _, [] => []
  | next, entry :: rest =>
    let first := next + entry.keywords.length
    entry.members.zipIdx.map (fun (member, index) => (member.id, ⟨first + index⟩))
      ++ memberHandlesFrom (first + entry.members.length) rest

def memberIds (manifest : Manifest) : Except Error (NameMap EntityRef) :=
  enterAll .duplicateMember .empty (memberHandlesFrom 0 manifest.namespaces)

/-- What references in a manifest stand for. -/
structure Directory where
  functions : NameMap FunctionRef
  namespaces : NameMap NamespaceRef
  members : NameMap EntityRef

namespace Directory

/-- A namespace that `entry` refers to. -/
def namespace? (directory : Directory) (entry : NamespaceEntry) (name : String) :
    Except Error NamespaceRef :=
  match directory.namespaces.get? name with
  | some handle => .ok handle
  | none => .error (.manifest (.unknownNamespace entry.name name))

/-- The parent of the namespace at position `index`, which must stand before it. -/
def parent? (directory : Directory) (entry : NamespaceEntry) (index : Nat) :
    Except Error (Option NamespaceRef) :=
  match entry.parent with
  | none => .ok none
  | some parent => do
    let handle ← directory.namespace? entry parent
    if index ≤ handle.index then .error (.manifest (.lateParent entry.name parent))
    else return some handle

/-- What is asked for when the namespace at position `index` is created. -/
def request (directory : Directory) (entry : NamespaceEntry) (index : Nat) :
    Except Error NamespaceRequest := do
  let parent ← directory.parent? entry index
  let forbidden ← entry.forbidden.mapM (directory.namespace? entry)
  return { name := entry.name, parent, forbidden, forbidsSelf := entry.forbidsSelf }

/-- The naming function that a member asks for. -/
def function? (directory : Directory) (member : MemberEntry) (name : Option String) :
    Except Error FunctionRef :=
  let asked := name.getD defaultFunction
  match directory.functions.get? asked with
  | some handle => .ok handle
  | none => .error (.manifest (.unknownFunction member.id asked))

/-- A member that another depends on. -/
def dependency? (directory : Directory) (member : MemberEntry) (id : String) :
    Except Error EntityRef :=
  match directory.members.get? id with
  | some handle => .ok handle
  | none => .error (.manifest (.unknownDependency member.id id))

/-- Refuses a template with a placeholder that no dependency fills. -/
def checkTemplate (member template : String) (dependencies : Nat) : Except Error Unit :=
  match Template.outOfRange? template dependencies with
  | some index => .error (.manifest (.placeholderOutOfRange member index dependencies))
  | none => .ok ()

/-- The entity that a member describes. -/
def entity (directory : Directory) (home : NamespaceRef) (member : MemberEntry) :
    Except Error Entity :=
  match member.source with
  | .fixed name => .ok ⟨home, name, .fixed name⟩
  | .simple propose function => do
    return ⟨home, propose, .simple (← directory.function? member function) propose⟩
  | .dependent depends template function => do
    let handle ← directory.function? member function
    let dependencies ← depends.mapM (directory.dependency? member)
    checkTemplate member.id template dependencies.length
    return ⟨home, member.id, .dependent handle dependencies (Template.render template)⟩

end Directory

/-- Adds a member, which must get the handle it was given in advance. -/
def addMember (directory : Directory) (home : NamespaceRef)
    (state : Graph × Table .entities String) (member : MemberEntry) :
    Except Error (Graph × Table .entities String) := do
  let (graph, labels) := state
  let handle := graph.nextEntity
  let entity ← directory.entity home member
  if directory.members.get? member.id ≠ some handle then
    .error (.manifest (.outOfOrder member.id))
  else return (graph.addEntity entity, labels.insert handle member.id)

/-- Adds a namespace with its reserved words and its members. -/
def addNamespace (directory : Directory) (state : Graph × Table .entities String)
    (declared : NamespaceEntry × Nat) : Except Error (Graph × Table .entities String) := do
  let (graph, labels) := state
  let (entry, index) := declared
  let home := graph.nextNamespace
  let request ← directory.request entry index
  let started := entry.keywords.foldl (·.addFixed home ·) (graph.addNamespace request)
  entry.members.foldlM (addMember directory home) (started, labels)

/-- Builds the graph. `filler` is for the naming function `default` if that is not declared. -/
def build (manifest : Manifest) (filler : Char) : Except Error BuiltManifest := do
  let namespaces ← manifest.namespaceIds
  let members ← manifest.memberIds
  let directory : Directory := ⟨manifest.functionIds filler, namespaces, members⟩
  let (graph, labels) ← manifest.namespaces.zipIdx.foldlM (addNamespace directory)
    (manifest.functionGraph filler, .empty)
  let roots := manifest.namespaces.zipIdx.filterMap fun (entry, index) =>
    if entry.parent.isNone then some ⟨index⟩ else none
  return { graph, roots, ids := members, labels }

end Manifest

end NameAssignment
