import NameAssignment.NamingFunction.Counting

/-!
Manifests: the declarative description of a forest of namespaces.

A manifest declares counting naming functions by name, and namespaces with their reserved words
and members. Namespaces and members refer to each other by the names they are declared with; a
reference may point forward, but a parent has to be declared before its children.
-/

namespace NameAssignment

/-- A declared naming function: the counting one with a filler. -/
structure CountingEntry where
  filler : Char := Counting.defaultFiller
  deriving DecidableEq, Repr

/-- How a declared member arrives at its name. The naming function may be left open. -/
inductive MemberSource
  | fixed (name : String)
  | simple (propose : String) (function : Option String)
  | dependent (depends : List String) (template : String) (function : Option String)
  deriving DecidableEq, Repr

/-- A declared member. -/
structure MemberEntry where
  id : String
  source : MemberSource
  deriving DecidableEq, Repr

/-- A declared namespace. -/
structure NamespaceEntry where
  name : String
  parent : Option String := none
  forbidden : List String := []
  forbidsSelf : Bool := false
  /-- Reserved words, which become fixed members in front of the others. -/
  keywords : List String := []
  members : List MemberEntry := []
  deriving DecidableEq, Repr

/-- Declared naming functions, and declared namespaces in order. -/
structure Manifest where
  functions : NameMap CountingEntry
  namespaces : List NamespaceEntry
  deriving DecidableEq

/-- What is named when a member leaves its naming function open. -/
def Manifest.defaultFunction : String := "default"

/-- The naming function a member asks for; none if its name is fixed. -/
def MemberSource.function? : MemberSource → Option String
  | .fixed _ => none
  | .simple _ function => some (function.getD Manifest.defaultFunction)
  | .dependent _ _ function => some (function.getD Manifest.defaultFunction)

def Manifest.memberCount (manifest : Manifest) : Nat :=
  manifest.namespaces.foldr (fun entry total => entry.members.length + total) 0

end NameAssignment
