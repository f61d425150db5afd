import NameAssignment.Document
import NameAssignment.Grouping
import NameAssignment.Manifest.Build

/-!
Reports: what a resolution of a manifest comes to, in the manifest's own words.

There is a row for every entity: with its name, or with what it waits for. An unnamed entity can
wait for dependencies that have no name, and for forbidden namespaces that are not fully named.
-/

namespace NameAssignment

/-- A named entity. -/
structure AssignedRow where
  home : String
  entity : String
  kind : String
  name : String
  deriving DecidableEq, Repr

/-- An entity without a name. -/
structure UnresolvedRow where
  home : String
  entity : String
  /-- Dependencies without a name, each once. -/
  waitingOn : List String
  /-- Forbidden namespaces, other than its own, with a member without a name. -/
  blockedBy : List String
  deriving DecidableEq, Repr

structure Report where
  isComplete : Bool
  rounds : Nat
  assignments : List AssignedRow
  unresolved : List UnresolvedRow
  deriving DecidableEq, Repr

/-- What an entity's kind is called. -/
def NameSource.kind : NameSource → String
  | .fixed _ => "fixed"
  | .simple _ _ => "simple"
  | .dependent _ _ _ => "dependent"

namespace Graph

/-- The name of a namespace; none if it is not there. -/
def namespaceName? (graph : Graph) (handle : NamespaceRef) : Option String :=
  (graph.namespace? handle).map (·.name)

end Graph

namespace Report

def assignedRow (built : BuiltManifest) (handle : EntityRef) (name : String) :
    Option AssignedRow := do
  let entity ← built.graph.entity? handle
  let home ← built.graph.namespaceName? entity.home
  return ⟨home, built.label handle, entity.source.kind, name⟩

/-- The dependencies that have no name, each where it comes first. -/
def pending (entity : Entity) (names : Names) : List EntityRef :=
  (entity.dependencies.filter fun dependency => !names.contains dependency).eraseDups

/-- The forbidden namespaces that keep a namespace waiting. -/
def blocking (graph : Graph) (home : NamespaceRef) (names : Names) :
    List NamespaceRef :=
  (graph.forbidden home).filter fun other =>
    other ≠ home && !graph.isFullyNamed names other

def unresolvedRow (built : BuiltManifest) (names : Names) (handle : EntityRef) :
    Option UnresolvedRow := do
  let entity ← built.graph.entity? handle
  let home ← built.graph.namespaceName? entity.home
  return {
    home
    entity := built.label handle
    waitingOn := (pending entity names).map built.label
    blockedBy := (blocking built.graph entity.home names).filterMap built.graph.namespaceName? }

/-- The rows of a resolution: the assignments in handle order, then what is left. -/
def ofResolution (built : BuiltManifest) (resolution : Resolution) : Report where
  isComplete := resolution.isComplete
  rounds := resolution.rounds
  assignments := resolution.names.entries.filterMap fun (handle, name) =>
    assignedRow built handle name
  unresolved := resolution.unresolved.filterMap (unresolvedRow built resolution.names)

end Report

def AssignedRow.toDocument (row : AssignedRow) : Document :=
  .table [("namespace", .text row.home), ("entity", .text row.entity), ("kind", .text row.kind),
    ("name", .text row.name)]

def UnresolvedRow.toDocument (row : UnresolvedRow) : Document :=
  .table [("namespace", .text row.home), ("entity", .text row.entity),
    ("waiting_on", .texts row.waitingOn), ("blocked_by", .texts row.blockedBy)]

def Report.toDocument (report : Report) : Document :=
  .table [("complete", .truth report.isComplete), ("rounds", .number (toString report.rounds)),
    ("assignments", .list (report.assignments.map AssignedRow.toDocument)),
    ("unresolved", .list (report.unresolved.map UnresolvedRow.toDocument))]

end NameAssignment
