import NameAssignment.Graph

/-!
Validity: every handle a graph mentions points at a filled slot.

`Graph.firstDangling?` looks at the namespaces in order of creation (the parent before what is
forbidden), then at the entities (the namespace, the naming function, the dependencies in order).
-/

namespace NameAssignment

namespace Namespace

/-- The first handle of a namespace that points at nothing in `graph`. -/
def dangling? (space : Namespace) (graph : Graph) : Option DanglingReference :=
  let isMissing (handle : NamespaceRef) : Bool := (graph.namespace? handle).isNone
  ((space.parent.filter isMissing).map (.parent space.name)).or
    ((space.forbidden.toList.find? isMissing).map (.forbidden space.name))

end Namespace

namespace Entity

/-- The first handle of an entity that points at nothing in `graph`. -/
def dangling? (entity : Entity) (handle : EntityRef) (graph : Graph) :
    Option DanglingReference :=
  let label : EntityLabel := ⟨entity.name, handle⟩
  if (graph.namespace? entity.home).isNone then some (.home label entity.home)
  else
    ((entity.function?.filter fun function => (graph.function? function).isNone).map
      (.function label)).or
    ((entity.dependencies.find? fun dependency => (graph.entity? dependency).isNone).map
      (.dependency label))

end Entity

namespace Graph

/-- The first dangling handle, namespaces before entities. -/
def firstDangling? (graph : Graph) : Option DanglingReference :=
  (graph.namespaces.toList.findSome? (·.dangling? graph)).or
    (graph.entities.toList.zipIdx.findSome? fun (entity, index) =>
      entity.dangling? ⟨index⟩ graph)

/-- Refuses a graph with a dangling handle. -/
def validate (graph : Graph) : Except Error Unit :=
  match graph.firstDangling? with
  | some reference => .error (.dangling reference)
  | none => .ok ()

end Graph

end NameAssignment
