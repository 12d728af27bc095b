import StateMachine.Definition.Compilation
import StateMachine.Definition.Form
import StateMachine.Definition.Sample
import StateMachine.Journal.Form
import StateMachine.Machine.Dispatch
import StateMachine.Machine.Log
import StateMachine.Policy.Form
import StateMachine.Proofs.Adequacy
import StateMachine.Proofs.FirstFailure
import StateMachine.Proofs.Log
import StateMachine.Proofs.Descent
import StateMachine.Proofs.Queue
import StateMachine.Proofs.Reachable
import StateMachine.Proofs.Retrace
import StateMachine.Proofs.TailTrigger
import StateMachine.Proofs.Trigger
import StateMachine.Proofs.Forwarding
import StateMachine.Proofs.Stopping
import StateMachine.Proofs.Twin
import StateMachine.Proofs.Detachment
import StateMachine.Proofs.Limit
import StateMachine.Proofs.Bounded
import StateMachine.Proofs.Untripped
import StateMachine.Proofs.Order
import StateMachine.Proofs.Layout
import StateMachine.Proofs.LastRule
import StateMachine.Proofs.Problems
import StateMachine.Proofs.Repetition
import StateMachine.Proofs.Reordering
import StateMachine.Proofs.Unrecorded
import StateMachine.Proofs.Form
import StateMachine.Proofs.Printed
import StateMachine.Proofs.RoundTrip
import StateMachine.Proofs.Edges
import StateMachine.Proofs.Naming
import StateMachine.Proofs.Agreement
import StateMachine.Proofs.Unknown
import StateMachine.Proofs.Mutation
import StateMachine.Proofs.Snapshot
import StateMachine.Proofs.Numeral
import StateMachine.Proofs.Calendar
import StateMachine.Proofs.Stamp
import StateMachine.Proofs.JournalText
import StateMachine.Proofs.Overrides
import StateMachine.Proofs.Wrapping
import StateMachine.Proofs.Cells
import StateMachine.Proofs.Callbacks
