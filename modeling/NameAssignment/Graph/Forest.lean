import NameAssignment.Graph

/-!
The forest below a list of roots: parents before children, children in order of creation, and
each namespace once, where it is first met.
-/

namespace NameAssignment.Graph

/-- Visits the pending namespaces depth first. A namespace met again is passed over. `fuel` bounds
the number of visits. -/
def visit (graph : Graph) : Nat → OrderedSet .namespaces → List NamespaceRef →
    Except Error (OrderedSet .namespaces)
  | 0, seen, _ => .ok seen
  | _ + 1, seen, [] => .ok seen
  | fuel + 1, seen, handle :: pending =>
    match graph.namespace? handle with
    | none => .error (.dangling (.root handle))
    | some space =>
      if seen.contains handle then visit graph fuel seen pending
      else visit graph fuel (seen.insert handle) (space.children ++ pending)

/-- How many visits can be needed: each root once, each child once, and one to see the end. -/
def visits (graph : Graph) (roots : List NamespaceRef) : Nat :=
  let children := graph.namespaces.toList.foldr (fun space total => space.children.length + total) 0
  roots.length + children + 1

/-- Every namespace reachable from the roots, in forest order. -/
def flatten (graph : Graph) (roots : List NamespaceRef) : Except Error (List NamespaceRef) :=
  (graph.visit (graph.visits roots) .empty roots).map (·.toList)

end NameAssignment.Graph
