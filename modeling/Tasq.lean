import Tasq.Lib.Outcome
import Tasq.Lib.Text
import Tasq.Lib.Json
import Tasq.Lib.Canonical
import Tasq.Lib.Encode
import Tasq.Lib.Table
import Tasq.Failure
import Tasq.Schema.Commitment
import Tasq.Schema.Replication
import Tasq.Runtime
import Tasq.Ideal
import Tasq.Ledger
import Tasq.Tasks
import Tasq.TaskEffects
import Tasq.TaskDeletion
import Tasq.Replication.Store
import Tasq.Replication.Command
import Tasq.Replication.Effect
import Tasq.Replication.Queue
import Tasq.Replication.Verify
import Tasq.Replication.Accept
import Tasq.Replication.Snapshot
import Tasq.Replication.Authority
import Tasq.Replication.Install
import Tasq.Replication.Producer
import Tasq.Replication.Acceptance
import Tasq.Replication.Overwrite
import Tasq.Lib.Run
import Tasq.Lib.Print
import Tasq.Lib.Rows
import Tasq.Replication.AuthorityRun
import Tasq.Replication.Converge
import Tasq.Replication.Fence
import Tasq.Replication.Pulls
import Tasq.Replication.Retired
import Tasq.Lib.Chain
import Tasq.EffectLedger.Permits
import Tasq.Resources.Fences
import Tasq.Work.Store
import Tasq.Lib.Forest
import Tasq.TaskHierarchy
import Tasq.Work.Moves
import Tasq.Work.TaskMoves
import Tasq.Work.Calls
import Tasq.Work.TaskCalls
import Tasq.Work.Recurrence
import Tasq.Work.Transition
import Tasq.Work.Attempts
import Tasq.Lib.Line
import Tasq.Delivery.Store
import Tasq.Delivery.Order
import Tasq.Delivery.Run
import Tasq.Lib.Search
import Tasq.Relations.Store
import Tasq.Relations.Graph
import Tasq.Relations.Calls
import Tasq.Relations.Mirror
import Tasq.Work.Premises
import Tasq.Work.PremiseRun
import Tasq.Work.Series
import Tasq.Waiting.Evaluator
import Tasq.Waiting.Store
import Tasq.Waiting.Moves
import Tasq.Waiting.Run
import Tasq.Authority.Schema
import Tasq.Authority.Records
import Tasq.Authority.Runtime
import Tasq.Authority.Evaluate
import Tasq.Authority.Entitled
import Tasq.Authority.Ideal
import Tasq.Authority.Monotone
import Tasq.Authority.Store
import Tasq.Authority.Mandates
import Tasq.Authority.Mutations
import Tasq.Authority.Decide
import Tasq.Authority.Enroll
import Tasq.Authority.System
import Tasq.Authority.Revision
import Tasq.Authority.Writes
import Tasq.Authority.Keyed
import Tasq.Authority.Redemption
import Tasq.Authority.Guard
import Tasq.Authority.Snapshot
import Tasq.Custody.System
import Tasq.Custody.Recovery
import Tasq.Cloud.Sessions
import Tasq.Cloud.Lifecycle
import Tasq.Cloud.Rotation
import Tasq.Signing.Liveness
import Tasq.EffectLedger.Honoured
import Tasq.Lib.Answer
import Tasq.Resources.Renewal
import Tasq.Attestations.Current
import Tasq.Planning.Workable
import Tasq.Waiting.Routing
import Tasq.Waiting.Delivery
import Tasq.Waiting.Sweep
import Tasq.Work.Commitments
import Tasq.Journal.Rotation
import Tasq.Work.Contention
import Tasq.Lib.Parse
import Tasq.Lib.ReadBack
import Tasq.Lib.Bytes
import Tasq.Lib.Sorted
import Tasq.Lib.Size
import Tasq.Bundles.Store
import Tasq.Bundles.Bundle
import Tasq.Bundles.Freshness
import Tasq.Bundles.Rebuild
import Tasq.Bundles.Envelope
import Tasq.Lib.Stringify
import Tasq.Targets.Reference
import Tasq.Lib.Shape
import Tasq.Statements.Verified
import Tasq.Relations.Assignments
import Tasq.Work.Listing
import Tasq.Lib.Double
import Tasq.Work.Progress
import Tasq.Work.Leaves
import Tasq.Migrations.Split
import Tasq.Migrations.Faithful
import Tasq.Lib.Pages
import Tasq.Replication.Paging
import Tasq.Replication.Assembly
import Tasq.Work.Assumptions
import Tasq.Work.Beliefs
import Tasq.Work.BeliefRun
import Tasq.Replication.Texts
import Tasq.Replication.Batches
import Tasq.Lib.Decimal
import Tasq.Lib.JsText
import Tasq.CanonicalJson
import Tasq.EffectLedger.Envelope
import Tasq.Lib.Object
import Tasq.EffectLedger.NormalForm
import Tasq.Work.Occurrences
import Tasq.Attention.Plan
import Tasq.Attention.Queue
import Tasq.Attention.Batches
import Tasq.Attention.Cohorts
import Tasq.Work.Steps
import Tasq.Work.System
import Tasq.Work.Exclusion
