import NameAssignment.Graph
import NameAssignment.Grouping
import NameAssignment.Resolution.Log

/-!
Batches: the ready members of a namespace, grouped by naming function and then by proposal.

Naming functions come in order of first appearance, the proposals of one function likewise, and
the members of a batch in the order in which they were given.
-/

namespace NameAssignment

/-- A ready member with its naming function and its proposal. -/
structure Candidate where
  entity : EntityRef
  function : FunctionRef
  proposed : String
  deriving DecidableEq

/-- What the members propose, up to the first that cannot. Members with a fixed name are left
out. -/
def Graph.candidates (graph : Graph) (names : Names) :
    List EntityRef → Except Error (List Candidate)
  | [] => .ok []
  | member :: rest =>
    match graph.entity? member with
    | none => candidates graph names rest
    | some entity =>
      match entity.function? with
      | none => candidates graph names rest
      | some function =>
        match entity.propose member names with
        | .error cause => .error cause
        | .ok proposed =>
          (candidates graph names rest).map (⟨member, function, proposed⟩ :: ·)

/-- Candidates grouped by naming function, then by proposal. -/
def Batch.ofCandidates (candidates : List Candidate) : List Batch :=
  (groupByKey (·.function) candidates).flatMap fun (function, sharing) =>
    (groupByKey (·.proposed) sharing).map fun (proposed, alike) =>
      ⟨function, proposed, alike.map (·.entity)⟩

/-- The batches of a list of ready members. -/
def Graph.batches (graph : Graph) (names : Names) (ready : List EntityRef) :
    Except Error (List Batch) :=
  (graph.candidates names ready).map Batch.ofCandidates

end NameAssignment
