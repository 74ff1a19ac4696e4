import Backtrack.Binding.Arena
import Backtrack.Binding.Candidates
import Backtrack.Binding.RollbackLog
import Backtrack.Chain
import Backtrack.Condition
import Backtrack.Dispatch
import Backtrack.Fault
import Backtrack.Identifiers
import Backtrack.Machine.Activation
import Backtrack.Machine.Basic
import Backtrack.Machine.Bindings
import Backtrack.Machine.Call
import Backtrack.Machine.Coroutine
import Backtrack.Machine.Counters
import Backtrack.Machine.Frame
import Backtrack.Machine.NodeTable
import Backtrack.Machine.Regions
import Backtrack.Machine.Run
import Backtrack.Machine.Settings
import Backtrack.Machine.Start
import Backtrack.Machine.Step
import Backtrack.Machine.Transfer
import Backtrack.Machine.Unwind
import Backtrack.Machine.View
import Backtrack.Program.Assembler
import Backtrack.Program.Basic
import Backtrack.Program.Check
import Backtrack.Program.Defect
import Backtrack.Program.Instruction
import Backtrack.Shape
import Backtrack.Stack
import Backtrack.Text.Printable
import Backtrack.Text.Quoted
import Backtrack.Value.Basic
import Backtrack.Value.Display
import Backtrack.Value.Fingerprint
import Backtrack.Value.Same
import Backtrack.Proofs.Leads
import Backtrack.Proofs.Actions
import Backtrack.Proofs.Bounded
import Backtrack.Proofs.Checked
import Backtrack.Proofs.Handles
import Backtrack.Proofs.Mirrors
import Backtrack.Proofs.Popped
import Backtrack.Proofs.Progress
import Backtrack.Proofs.Raising
import Backtrack.Proofs.Verified
import Backtrack.Proofs.Turns
import Backtrack.Proofs.Discipline
import Backtrack.Proofs.Persistence
import Backtrack.Proofs.Outcomes
import Backtrack.Proofs.Switching
import Backtrack.Proofs.Delivery
import Backtrack.Proofs.Resting
import Backtrack.Proofs.Ownership
import Backtrack.Proofs.Bracketing
import Backtrack.Proofs.Returning
import Backtrack.Proofs.Parked
import Backtrack.Proofs.Tracing
import Backtrack.Proofs.Resumption
import Backtrack.Proofs.Following
import Backtrack.Proofs.Snapshots
import Backtrack.Proofs.Fuel
import Backtrack.Proofs.Occupancy
import Backtrack.Proofs.Searching
import Backtrack.Proofs.Faulting
import Backtrack.Proofs.WellFormed
import Backtrack.Proofs.Calling
import Backtrack.Proofs.Waiting
import Backtrack.Proofs.Traces
import Backtrack.Proofs.Unstarted
import Backtrack.Proofs.Copying
import Backtrack.Proofs.Declaring
import Backtrack.Proofs.Ledger
import Backtrack.Proofs.Overloads
import Backtrack.Proofs.Transcripts
import Backtrack.Proofs.Generations
import Backtrack.Proofs.Finalising
import Backtrack.Proofs.Assembling
import Backtrack.Proofs.Tables
import Backtrack.Proofs.Writing
import Backtrack.Proofs.Tandem
import Backtrack.Proofs.Metering
import Backtrack.Proofs.Interning
import Backtrack.Proofs.Balancing
import Backtrack.Proofs.Enclosing
import Backtrack.Proofs.Pinning
import Backtrack.Proofs.Strict
import Backtrack.Proofs.Ranges
