import NameAssignment.Files.Tree
import NameAssignment.Graph.History
import NameAssignment.Main
import NameAssignment.Manifest.Encode
import NameAssignment.Proofs.Handles
import NameAssignment.Proofs.Links
import NameAssignment.Proofs.Forest
import NameAssignment.Proofs.Preorder
import NameAssignment.Proofs.Outcome
import NameAssignment.Proofs.Batches
import NameAssignment.Proofs.Assignment
import NameAssignment.Proofs.Rounds
import NameAssignment.Proofs.Collision
import NameAssignment.Proofs.Waiting
import NameAssignment.Proofs.ShortestRun
import NameAssignment.Proofs.Validity
import NameAssignment.Proofs.Strict
import NameAssignment.Proofs.Guarding
import NameAssignment.Proofs.Ledger
import NameAssignment.Proofs.Attribution
import NameAssignment.Proofs.Dangling
import NameAssignment.Proofs.Provenance
import NameAssignment.Proofs.Modes
import NameAssignment.Proofs.SelfForbidding
import NameAssignment.Proofs.Building
import NameAssignment.Proofs.WaitOrder
import NameAssignment.Proofs.BuildOrder
import NameAssignment.Proofs.Independence
import NameAssignment.Proofs.FixedNames
import NameAssignment.Proofs.Declarations
import NameAssignment.Proofs.Faithfulness
import NameAssignment.Proofs.Accounting
import NameAssignment.Proofs.Placeholders
import NameAssignment.Proofs.ForestOrder
import NameAssignment.Proofs.Rendering
import NameAssignment.Proofs.Stability
import NameAssignment.Proofs.Subsumption
import NameAssignment.Proofs.LastWrites
import NameAssignment.Proofs.FirstOccurrences
import NameAssignment.Proofs.RoundTrip
import NameAssignment.Proofs.Renaming
import NameAssignment.Proofs.DefaultFunction
import NameAssignment.Proofs.Upkeep
import NameAssignment.Proofs.Batching
import NameAssignment.Proofs.ReverseIndex
import NameAssignment.Proofs.Progress
