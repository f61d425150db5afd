import NameAssignment.Graph.Forest
import NameAssignment.Graph.Validity
import NameAssignment.Resolution.Batch
import NameAssignment.Resolution.Readiness
import NameAssignment.Resolution.State

/-!
Resolution: every entity below the given roots gets a name, as far as that is possible.

Fixed names come first. Then rounds follow, and each takes the first namespace in forest order
whose forbidden namespaces are fully named and which has a ready member, and names its ready
members batch by batch. When no namespace qualifies the run ends. What is still unnamed then waits
on a cycle, or on a namespace outside the forest; this is reported and is not an error.

A *guarded* run also keeps a namespace's new names apart from those its members already hold, the
ones given earlier in the same round included.
-/

namespace NameAssignment

/-- How a run ended: the names, the entities left without one in forest order, and the number of
rounds. -/
structure Resolution where
  names : Names
  unresolved : List EntityRef
  rounds : Nat

def Resolution.isComplete (resolution : Resolution) : Bool := resolution.unresolved.isEmpty

namespace NamingState

/-- Gives the members of a batch their names, pairwise in order. -/
def assignAll (graph : Graph) : NamingState → List (EntityRef × String) → Except Error NamingState
  | state, [] => .ok state
  | state, (entity, name) :: rest =>
    match state.assign graph entity name with
    | .error cause => .error cause
    | .ok assigned => assignAll graph assigned rest

/-- Names one batch: asks its naming function, holds the answer to the contract and assigns it. In
a guarded run the new names are forbidden to the batches that follow. -/
def nameBatch (graph : Graph) (guarded : Bool) (space : NamespaceRef)
    (current : NamingState × NameSet) (batch : Batch) : Logged (NamingState × NameSet) :=
  let (state, forbidden) := current
  match graph.function? batch.function with
  | none => .of (.error (.dangling (.batchFunction batch.function)))
  | some function =>
    .call ⟨space, batch, forbidden, state.names⟩ do
      let names ← function batch.proposed forbidden batch.members.length
      NamingFunction.audit batch.function batch.proposed forbidden batch.members.length names
      let assigned ← state.assignAll graph (batch.members.zip names)
      return (assigned, if guarded then forbidden.insertAll names else forbidden)

/-- One round: names the ready members of a namespace. -/
def round (graph : Graph) (guarded : Bool) (state : NamingState) (space : NamespaceRef)
    (ready : List EntityRef) : Logged NamingState := do
  let batches ← .of (graph.batches state.names ready)
  let (named, _) ←
    batches.foldlM (nameBatch graph guarded space)
      (state, graph.forbiddenNames state.names guarded space)
  return named

/-- Runs rounds until no namespace qualifies, and counts them. `fuel` bounds their number. -/
def rounds (graph : Graph) (guarded : Bool) (forest : List NamespaceRef) :
    Nat → Nat → NamingState → Logged (NamingState × Nat)
  | 0, done, state => pure (state, done)
  | fuel + 1, done, state =>
    match graph.next? state.names forest with
    | none => pure (state, done)
    | some (space, ready) => do
      let named ← round graph guarded state space ready
      rounds graph guarded forest fuel (done + 1) named

end NamingState

namespace Graph

/-- Names everything below the roots. Every round names an entity at least, so the number of
entities bounds the number of rounds. -/
def resolve (graph : Graph) (guarded : Bool) (roots : List NamespaceRef) : Logged Resolution := do
  .of graph.validate
  let forest ← .of (graph.flatten roots)
  let fixed ← .of (NamingState.assignFixed graph forest)
  let (state, done) ← NamingState.rounds graph guarded forest (graph.entities.size + 1) 0 fixed
  return ⟨state.names, graph.unnamed state.names forest, done⟩

end Graph

end NameAssignment
