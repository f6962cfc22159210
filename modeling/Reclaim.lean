import Reclaim.Text.RangeTable
import Reclaim.Text.Blank
import Reclaim.Text.WordEnd
import Reclaim.Text.Lowercase
import Reclaim.Text.Uppercase
import Reclaim.Text.Printable
import Reclaim.Text.DecimalDigit
import Reclaim.Text.Quoted
import Reclaim.Text.Segments
import Reclaim.Decimal.Binary
import Reclaim.Decimal.Shortest
import Reclaim.Decimal.Notation
import Reclaim.Decimal.Reader
import Reclaim.Value.Basic
import Reclaim.Value.Display
import Reclaim.Value.Json
import Reclaim.Time.Scale
import Reclaim.Time.Seconds
import Reclaim.Fault
import Reclaim.ResourceId
import Reclaim.NodeId
import Reclaim.Naming
import Reclaim.Log.Entry
import Reclaim.Log.Line
import Reclaim.Cloud.Kind
import Reclaim.Cloud.Model
import Reclaim.Cloud.View
import Reclaim.Cloud.Request
import Reclaim.Cloud.Access
import Reclaim.Session
import Reclaim.Session.Lemmas
import Reclaim.Ownership
import Reclaim.Tracker.Patience
import Reclaim.Tracker.Escalation
import Reclaim.Tracker.Deletion
import Reclaim.Tracker.Departure
import Reclaim.Settings.Basic
import Reclaim.Settings.Environment
import Reclaim.Teardown
import Reclaim.Cascade.Interfaces
import Reclaim.Cascade.Disks
import Reclaim.Cascade.AvailabilitySet
import Reclaim.Cascade.Networks
import Reclaim.Cascade.Node
import Reclaim.Finalize.Group
import Reclaim.Assembly
import Reclaim.Proofs.Run
import Reclaim.Proofs.Keeps
import Reclaim.Proofs.Authorisation.Spec
import Reclaim.Proofs.Limits
import Reclaim.Proofs.Stages
import Reclaim.Proofs.Authorisation.Operations
import Reclaim.Proofs.Cascade.Spec
import Reclaim.Proofs.Cascade.Ending
import Reclaim.Proofs.Effect.Cloud
import Reclaim.Proofs.Effect.Access
import Reclaim.Proofs.Effect.Waiting
import Reclaim.Proofs.Effect.Interfaces
import Reclaim.Proofs.Effect.Leftovers
import Reclaim.Proofs.Effect.Node
import Reclaim.Proofs.Effect.Stock
import Reclaim.Proofs.Effect.Exact
import Reclaim.Proofs.Effect.Tolerant
import Reclaim.Proofs.Effect.Estate
import Reclaim.Proofs.Effect.Group
import Reclaim.Proofs.Time.Rules
import Reclaim.Proofs.Time.Trackers
import Reclaim.Proofs.Time.Requests
import Reclaim.Proofs.Time.Workload
import Reclaim.Proofs.Time.Bound
import Reclaim.Proofs.Cascade.Verdict
import Reclaim.Proofs.Signals.Pair
import Reclaim.Proofs.Signals.Node
import Reclaim.Proofs.Text.Cutting
import Reclaim.Proofs.Ids.Grammar
import Reclaim.Proofs.Ids.Spellings
import Reclaim.Proofs.Ids.Interchange
import Reclaim.Proofs.Ownership.Attached
import Reclaim.Proofs.Unconfirmed.Spec
import Reclaim.Proofs.Unconfirmed.Rules
import Reclaim.Proofs.Unconfirmed.Trackers
import Reclaim.Proofs.Unconfirmed.Operations
import Reclaim.Proofs.Double.Rounding
import Reclaim.Proofs.Double.Value
import Reclaim.Proofs.Double.Arithmetic
import Reclaim.Proofs.Double.Waiting
import Reclaim.Proofs.Settings.Acceptance
import Reclaim.Proofs.Settings.Bounded
import Reclaim.Proofs.Turns.Round
import Reclaim.Proofs.Turns.Asking
import Reclaim.Proofs.Turns.Disks
import Reclaim.Proofs.Turns.Interfaces
import Reclaim.Proofs.Turns.Networks
import Reclaim.Proofs.Waits.Course
import Reclaim.Proofs.Waits.Retrying
import Reclaim.Proofs.Waits.Deletion
import Reclaim.Proofs.Waits.Departure
import Reclaim.Proofs.Cloud.Replies
import Reclaim.Proofs.Ids.Tokens
import Reclaim.Proofs.Finalize.Containment
import Reclaim.Proofs.Naming.Grammar
import Reclaim.Proofs.Text.Lookalikes
import Reclaim.Proofs.Ownership.Generated
