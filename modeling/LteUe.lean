import LteUe.Config.Loading
import LteUe.Config.Report
import LteUe.Dispatcher.Waiting
import LteUe.Layers.Equipment
import LteUe.Metrics.Report
import LteUe.Pool.Chore
import LteUe.Proofs.Bridge.Handoff
import LteUe.Proofs.Capture.Contents
import LteUe.Proofs.Config.Overlay
import LteUe.Proofs.Dispatcher.Delivery
import LteUe.Proofs.Dispatcher.Rejections
import LteUe.Proofs.Dispatcher.Representation
import LteUe.Proofs.Dispatcher.Signals
import LteUe.Proofs.Executor.Accuracy
import LteUe.Proofs.Executor.Batching
import LteUe.Proofs.Lifetime.Captures
import LteUe.Proofs.Lifetime.Execution
import LteUe.Proofs.Lifetime.Safety
import LteUe.Proofs.Pool.Completion
import LteUe.Proofs.Procedures.Conduct
import LteUe.Proofs.Shutdown.Progress
import LteUe.Proofs.Sim.Attaching
import LteUe.Proofs.Sim.Detaching
import LteUe.Proofs.Sim.Sequence
import LteUe.Proofs.Sim.Transmission
import LteUe.Proofs.Stack.Deadlines
import LteUe.Proofs.Stack.Snapshots
import LteUe.Proofs.Tick.Arithmetic
import LteUe.Proofs.Timer.Countdown
import LteUe.Proofs.Timer.Occupancy
import LteUe.Proofs.Timer.Phases
import LteUe.Stack.Session
import LteUe.Storage.Memory
import LteUe.Timer.Chime
