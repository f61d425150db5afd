import NameAssignment.Graph

/-!
The state of a naming run: the names assigned so far, and for each name the entities that hold it.

An assignment never replaces a name. A checked assignment also refuses a name that is held by a
rival: another entity of the same namespace, or of a namespace that the entity's own forbids. Fixed
names are assigned unchecked, so one name can have several holders.
-/

namespace NameAssignment

structure NamingState where
  names : Names
  /-- For each assigned name its holders, in order of assignment. -/
  holders : NameMap (List EntityRef)

namespace NamingState

/-- Nothing assigned yet, with room for the graph's entities. -/
def start (graph : Graph) : NamingState :=
  ⟨.withCapacity graph.entities.size, .empty⟩

/-- Who holds a name. -/
def holdersOf (state : NamingState) (name : String) : List EntityRef :=
  (state.holders.get? name).getD []

/-- Stores a name and its holder. -/
def record (state : NamingState) (entity : EntityRef) (name : String) : NamingState :=
  ⟨state.names.insert entity name,
    state.holders.insert name (state.holdersOf name ++ [entity])⟩

/-- Whether `holder` is someone `entity` must not share a name with. -/
def areRivals (graph : Graph) (entity holder : EntityRef) : Bool :=
  match graph.entity? entity, graph.entity? holder with
  | some self, some other =>
    holder ≠ entity && (other.home = self.home || graph.forbids self.home other.home)
  | _, _ => false

/-- The first holder of `name` that `entity` must not share it with. -/
def rivalHolder? (state : NamingState) (graph : Graph) (entity : EntityRef) (name : String) :
    Option EntityRef :=
  (state.holdersOf name).find? (areRivals graph entity)

/-- Refuses a second name for an entity. -/
def assignUnchecked (state : NamingState) (graph : Graph) (entity : EntityRef) (name : String) :
    Except Error NamingState :=
  match state.names.get? entity with
  | some held => .error (.assignedTwice (graph.label entity) held name)
  | none => .ok (state.record entity name)

/-- Refuses a second name for an entity, and a name that a rival holds. -/
def assign (state : NamingState) (graph : Graph) (entity : EntityRef) (name : String) :
    Except Error NamingState :=
  match state.names.get? entity with
  | some held => .error (.assignedTwice (graph.label entity) held name)
  | none =>
    match state.rivalHolder? graph entity name with
    | some holder => .error (.nameTaken (graph.label entity) (graph.label holder) name)
    | none => .ok (state.record entity name)

/-- Gives every fixed member of the namespaces its own name. -/
def assignFixed (graph : Graph) (forest : List NamespaceRef) : Except Error NamingState :=
  (forest.flatMap graph.members).foldlM (fun state entity =>
    match graph.entity? entity with
    | some ⟨_, _, .fixed name⟩ => state.assignUnchecked graph entity name
    | _ => .ok state) (start graph)

end NamingState

end NameAssignment
