import CqlOperations.Number.Decimal
import CqlOperations.Scenario.Building
import CqlOperations.Scenario.Querying
import CqlOperations.Scenario.Slots
import CqlOperations.Scenario.Stubs
import CqlOperations.Scenario.Transformation
import CqlOperations.Simulation.Report
import CqlOperations.Simulation.Run
import CqlOperations.Proofs.Course
import CqlOperations.Proofs.Course.Settling
import CqlOperations.Proofs.Notifier
import CqlOperations.Proofs.Course.Account
import CqlOperations.Proofs.Gathering
import CqlOperations.Proofs.Course.OnTrack
import CqlOperations.Proofs.Course.Conclusion
import CqlOperations.Proofs.Course.Tally
import CqlOperations.Proofs.Chain
import CqlOperations.Proofs.Course.Complete
import CqlOperations.Proofs.Stack
import CqlOperations.Proofs.FailureHandler
import CqlOperations.Proofs.Paths
import CqlOperations.Proofs.Callback
import CqlOperations.Proofs.FanOut
import CqlOperations.Proofs.Pending
import CqlOperations.Proofs.Course.Reaches
import CqlOperations.Proofs.Simulation.Completion
import CqlOperations.Proofs.Simulation.Tracks
import CqlOperations.Proofs.Simulation.Tasks
import CqlOperations.Proofs.Simulation.Requests
import CqlOperations.Proofs.Simulation.Clock
import CqlOperations.Proofs.Simulation.Scene
import CqlOperations.Proofs.Simulation.Laws
import CqlOperations.Proofs.FailedSlots
import CqlOperations.Proofs.Creation
import CqlOperations.Proofs.Pending.Uses
import CqlOperations.Proofs.Simulation.Lives
import CqlOperations.Proofs.Simulation.Trajectory
import CqlOperations.Proofs.Simulation.Calls
import CqlOperations.Proofs.Simulation.Rest
import CqlOperations.Proofs.Simulation.Waiting
import CqlOperations.Proofs.Overlay
import CqlOperations.Proofs.Folding
import CqlOperations.Proofs.Handover
import CqlOperations.Proofs.Preview
import CqlOperations.Proofs.Reports
import CqlOperations.Proofs.Simulation.Receipts
import CqlOperations.Proofs.Simulation.Interleaving
import CqlOperations.Proofs.Terms
import CqlOperations.Proofs.Changes
import CqlOperations.Proofs.Simulation.Orders
import CqlOperations.Proofs.Configuration
import CqlOperations.Proofs.Bare
import CqlOperations.Proofs.Workshop
import CqlOperations.Proofs.Translation
import CqlOperations.Proofs.Rows
import CqlOperations.Proofs.Slots
import CqlOperations.Proofs.Classification
import CqlOperations.Proofs.Ingestion
import CqlOperations.Proofs.Batching
import CqlOperations.Proofs.Notifier.Calls
