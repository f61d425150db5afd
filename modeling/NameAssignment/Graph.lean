import NameAssignment.Handle.OrderedSet
import NameAssignment.Handle.Table
import NameAssignment.NamingFunction.Counting

/-!
The name graph: namespaces, the entities they own and the naming functions in use.

Everything lives in an arena and refers to everything else by handle. Namespaces form a forest
through their parents, and each may *forbid* others: its members must avoid the names held there.
The relation is directed, and a namespace may forbid itself. A handle given to the builder may
point past the end of its arena; nothing is refused while building, and a link is written only if
its target is there when the link is made.
-/

namespace NameAssignment

/-- How an entity arrives at its name. Only an entity without a fixed name has a naming
function. -/
inductive NameSource
  /-- The name is given. -/
  | fixed (name : String)
  /-- One proposal that depends on nothing. -/
  | simple (function : FunctionRef) (proposed : String)
  /-- A proposal made from the names of other entities, in order and with repetitions. -/
  | dependent (function : FunctionRef) (dependencies : List EntityRef)
      (combine : List String → String)

namespace NameSource

def isFixed : NameSource → Bool
  | .fixed _ => true
  | _ => false

def function? : NameSource → Option FunctionRef
  | .fixed _ => none
  | .simple function _ => some function
  | .dependent function _ _ => some function

def dependencies : NameSource → List EntityRef
  | .dependent _ dependencies _ => dependencies
  | _ => []

/-- The source shown in full; how a proposal is combined cannot be shown. -/
def text : NameSource → String
  | .fixed name => "Fixed(" ++ Quoted.encode name ++ ")"
  | .simple _ proposed => "Simple(" ++ Quoted.encode proposed ++ ")"
  | .dependent _ dependencies _ =>
    "DependencyBased \x7b dependencies: "
      ++ Quoted.bracketed (dependencies.map Handle.longText) ++ ", .. \x7d"

end NameSource

/-- The names assigned so far. -/
abbrev Names := Table .entities String

/-- Something that needs a name. Its own name is for messages only. -/
structure Entity where
  home : NamespaceRef
  name : String
  source : NameSource

namespace Entity

def isFixed (entity : Entity) : Bool := entity.source.isFixed

def function? (entity : Entity) : Option FunctionRef := entity.source.function?

def dependencies (entity : Entity) : List EntityRef := entity.source.dependencies

/-- Every dependency has a name. -/
def isReady (entity : Entity) (names : Names) : Bool :=
  entity.dependencies.all names.contains

/-- The names of `dependencies`, up to the first that has none. -/
def gather (label : EntityLabel) (names : Names) :
    List EntityRef → Except Error (List String)
  | [] => .ok []
  | dependency :: rest =>
    match names.get? dependency with
    | none => .error (.dependencyUnnamed label dependency)
    | some name => (gather label names rest).map (name :: ·)

/-- The name the entity asks for, given the names assigned so far. -/
def propose (entity : Entity) (handle : EntityRef) (names : Names) :
    Except Error String :=
  match entity.source with
  | .fixed name => .ok name
  | .simple _ proposed => .ok proposed
  | .dependent _ dependencies combine =>
    (gather ⟨entity.name, handle⟩ names dependencies).map combine

end Entity

/-- A scope that owns entities and child namespaces. Its name is for messages only. -/
structure Namespace where
  name : String
  parent : Option NamespaceRef
  /-- In order of creation. -/
  children : List NamespaceRef
  /-- In order of creation. -/
  members : List EntityRef
  /-- The namespaces whose names the members must avoid. -/
  forbidden : OrderedSet .namespaces

namespace Namespace

def isRoot (space : Namespace) : Bool := space.parent.isNone

def forbids (space : Namespace) (other : NamespaceRef) : Bool := space.forbidden.contains other

def addChild (space : Namespace) (child : NamespaceRef) : Namespace :=
  { space with children := space.children ++ [child] }

def addMember (space : Namespace) (member : EntityRef) : Namespace :=
  { space with members := space.members ++ [member] }

end Namespace

/-- What is asked for when a namespace is created. -/
structure NamespaceRequest where
  name : String
  parent : Option NamespaceRef := none
  forbidden : List NamespaceRef := []
  forbidsSelf : Bool := false

/-- Namespaces, entities and naming functions in arenas. -/
structure Graph where
  namespaces : Array Namespace
  entities : Array Entity
  functions : Array NamingFunction

namespace Graph

def empty : Graph := ⟨#[], #[], #[]⟩

instance : Inhabited Graph := ⟨empty⟩

def namespace? (graph : Graph) (handle : NamespaceRef) : Option Namespace :=
  graph.namespaces[handle.index]?

def entity? (graph : Graph) (handle : EntityRef) : Option Entity :=
  graph.entities[handle.index]?

def function? (graph : Graph) (handle : FunctionRef) : Option NamingFunction :=
  graph.functions[handle.index]?

/-- The handle the next namespace will get. -/
def nextNamespace (graph : Graph) : NamespaceRef := ⟨graph.namespaces.size⟩

/-- The handle the next entity will get, so that a dependency on it can be wired before it is
added. -/
def nextEntity (graph : Graph) : EntityRef := ⟨graph.entities.size⟩

/-- The handle the next naming function will get. -/
def nextFunction (graph : Graph) : FunctionRef := ⟨graph.functions.size⟩

def addFunction (graph : Graph) (function : NamingFunction) : Graph :=
  { graph with functions := graph.functions.push function }

/-- Adds a namespace. It is entered among its parent's children if the parent is there, the new
namespace itself included. -/
def addNamespace (graph : Graph) (request : NamespaceRequest) : Graph :=
  let handle := graph.nextNamespace
  let listed := OrderedSet.ofList request.forbidden
  let space : Namespace := {
    name := request.name
    parent := request.parent
    children := []
    members := []
    forbidden := if request.forbidsSelf then listed.insert handle else listed }
  let spaces := graph.namespaces.push space
  { graph with
    namespaces := match request.parent with
      | none => spaces
      | some parent => spaces.modify parent.index (·.addChild handle) }

/-- Adds an entity. It is entered among its namespace's members if the namespace is there. -/
def addEntity (graph : Graph) (entity : Entity) : Graph :=
  { graph with
    entities := graph.entities.push entity
    namespaces := graph.namespaces.modify entity.home.index (·.addMember graph.nextEntity) }

/-- Adds an entity whose name is given. -/
def addFixed (graph : Graph) (home : NamespaceRef) (name : String) : Graph :=
  graph.addEntity ⟨home, name, .fixed name⟩

/-- Adds an entity with one proposal. -/
def addSimple (graph : Graph) (home : NamespaceRef) (function : FunctionRef) (proposed : String) :
    Graph :=
  graph.addEntity ⟨home, proposed, .simple function proposed⟩

/-- Adds an entity whose proposal is made from the names of others. -/
def addDependent (graph : Graph) (home : NamespaceRef) (function : FunctionRef) (name : String)
    (dependencies : List EntityRef) (combine : List String → String) : Graph :=
  graph.addEntity ⟨home, name, .dependent function dependencies combine⟩

/-- Adds a root namespace that holds the given words as fixed names, for others to forbid. -/
def addKeywords (graph : Graph) (name : String) (words : List String) : Graph :=
  words.foldl (·.addFixed graph.nextNamespace ·) (graph.addNamespace { name })

/-- An entity as messages name it. -/
def label (graph : Graph) (handle : EntityRef) : EntityLabel :=
  ⟨((graph.entity? handle).map (·.name)).getD "", handle⟩

/-- The members of a namespace; none if it is not there. -/
def members (graph : Graph) (handle : NamespaceRef) : List EntityRef :=
  ((graph.namespace? handle).map (·.members)).getD []

/-- The namespaces that one forbids; none if it is not there. -/
def forbidden (graph : Graph) (handle : NamespaceRef) : List NamespaceRef :=
  ((graph.namespace? handle).map (·.forbidden.toList)).getD []

/-- Whether members of `handle` must avoid the names held in `other`. -/
def forbids (graph : Graph) (handle other : NamespaceRef) : Bool :=
  ((graph.namespace? handle).map (·.forbids other)).getD false

/-- How many dependencies the entities have between them. -/
def edgeCount (graph : Graph) : Nat :=
  graph.entities.toList.foldr (fun entity total => entity.dependencies.length + total) 0

/-- The namespaces without a parent, in order of creation. -/
def roots (graph : Graph) : List NamespaceRef :=
  graph.namespaces.toList.zipIdx.filterMap fun (space, index) =>
    if space.isRoot then some ⟨index⟩ else none

end Graph

end NameAssignment
