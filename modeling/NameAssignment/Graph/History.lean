import NameAssignment.Graph

/-!
Histories: a graph as the result of a list of building steps.

Every graph that a program can make comes from `Graph.ofSteps`. The handles in a step may point
anywhere, so a history says nothing about validity.
-/

namespace NameAssignment

/-- One building step. -/
inductive BuildStep
  | function (function : NamingFunction)
  | space (request : NamespaceRequest)
  | keywords (name : String) (words : List String)
  | fixed (home : NamespaceRef) (name : String)
  | simple (home : NamespaceRef) (function : FunctionRef) (proposed : String)
  | dependent (home : NamespaceRef) (function : FunctionRef) (name : String)
      (dependencies : List EntityRef) (combine : List String → String)

namespace Graph

/-- The graph after a step. -/
def build (graph : Graph) : BuildStep → Graph
  | .function function => graph.addFunction function
  | .space request => graph.addNamespace request
  | .keywords name words => graph.addKeywords name words
  | .fixed home name => graph.addFixed home name
  | .simple home function proposed => graph.addSimple home function proposed
  | .dependent home function name dependencies combine =>
    graph.addDependent home function name dependencies combine

/-- The graph after a list of steps. -/
def ofSteps (steps : List BuildStep) : Graph := steps.foldl build empty

end Graph

end NameAssignment
