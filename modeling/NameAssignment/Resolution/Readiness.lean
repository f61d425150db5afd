import NameAssignment.Graph

/-!
What can be named next, given the names assigned so far.

A namespace is *eligible* when every other namespace that it forbids is fully named, and a member
is *ready* when it has no name and all of its dependencies have one. A namespace does not wait for
itself, since its own members are the ones being named.
-/

namespace NameAssignment.Graph

/-- Every member of the namespace has a name. -/
def isFullyNamed (graph : Graph) (names : Names) (space : NamespaceRef) : Bool :=
  (graph.members space).all names.contains

/-- Every other namespace that this one forbids is fully named. -/
def isEligible (graph : Graph) (names : Names) (space : NamespaceRef) : Bool :=
  (graph.forbidden space).all fun other => other = space || graph.isFullyNamed names other

/-- The members without a name whose dependencies all have one. -/
def readyMembers (graph : Graph) (names : Names) (space : NamespaceRef) : List EntityRef :=
  (graph.members space).filter fun member =>
    !names.contains member && ((graph.entity? member).map (·.isReady names)).getD false

/-- The first eligible namespace with a ready member, and its ready members. -/
def next? (graph : Graph) (names : Names) (forest : List NamespaceRef) :
    Option (NamespaceRef × List EntityRef) :=
  forest.findSome? fun space =>
    let ready := graph.readyMembers names space
    if graph.isEligible names space && !ready.isEmpty then some (space, ready) else none

/-- The names held in the namespaces that `space` forbids and, if `guarded`, in `space` itself. -/
def forbiddenNames (graph : Graph) (names : Names) (guarded : Bool) (space : NamespaceRef) :
    NameSet :=
  let avoided := graph.forbidden space ++ if guarded then [space] else []
  .ofList ((avoided.flatMap graph.members).filterMap names.get?)

/-- The members of the namespaces that have no name, in forest order. -/
def unnamed (graph : Graph) (names : Names) (forest : List NamespaceRef) : List EntityRef :=
  (forest.flatMap graph.members).filter fun member => !names.contains member

end NameAssignment.Graph
